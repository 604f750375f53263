import DeviceKernels.Proofs.Operation.Configurations
import DeviceKernels.Proofs.Operation.Footprint
import DeviceKernels.Proofs.Operation.GemmArguments
import DeviceKernels.Proofs.Operation.SplitK

/-
Launch grids against the outputs that they cover. A grid has as many blocks as there are tiles, in
groups, unless the rows of tiles times the size of a group exceed a word: then blocks are missing.
-/

namespace DeviceKernels

open Number Operation Outcome

/-- The grid of an output of `rows` by `columns` elements that is computed in tiles and slices. The
tiles of `group` columns stand beside each other in the first extent, which is cut to a word; the
grid covers the rows exactly if nothing was cut off, as for all tiles of more than four rows. -/
structure LaunchExtent.Tiles (grid : LaunchExtent)
    (rows columns tileRows tileColumns group slices : Nat) : Prop where
  first : grid.x.toNat = (rows ⌈/⌉ tileRows) * group % 2 ^ 32
  second : grid.y.toNat = (columns ⌈/⌉ tileColumns) ⌈/⌉ group
  third : grid.z.toNat = slices
  members : (rows ⌈/⌉ tileRows) * group < 2 ^ 32 →
    0 < grid.x.toNat ∧ 0 < grid.y.toNat ∧ 0 < grid.z.toNat
  coversColumns : columns ≤ grid.y.toNat * group * tileColumns
  coversRows : rows ≤ grid.x.toNat / group * tileRows ↔ (rows ⌈/⌉ tileRows) * group < 2 ^ 32
  wide : 4 < tileRows → (rows ⌈/⌉ tileRows) * group < 2 ^ 32

variable {rows columns tileRows tileColumns group slices : Nat}

/-- A product of tile rows and group that is cut to a word covers the rows exactly if nothing was
cut off. -/
theorem Operation.cut_covers_iff (tall : 0 < tileRows) (grouped : 0 < group) :
    rows ≤ (rows ⌈/⌉ tileRows) * group % 2 ^ 32 / group * tileRows ↔
      (rows ⌈/⌉ tileRows) * group < 2 ^ 32 := by
  constructor
  · intro covers
    by_contra large
    have fewer : (rows ⌈/⌉ tileRows) * group % 2 ^ 32 < (rows ⌈/⌉ tileRows) * group :=
      (Nat.mod_lt _ (by decide)).trans_le (Nat.not_lt.mp large)
    have missing := mul_lt_of_lt_ceilDiv tall ((Nat.div_lt_iff_lt_mul grouped).mpr fewer)
    omega
  · intro fits
    rw [Nat.mod_eq_of_lt fits, Nat.mul_div_cancel _ grouped]
    exact le_ceilDiv_mul rows tall

/-- A group has eight members at most. -/
theorem Swizzle.two_pow_logTile_le (swizzle : Swizzle) : 2 ^ swizzle.logTile ≤ 8 := by
  cases swizzle <;> decide

/-- The grid of a tiled output. -/
theorem Operation.swizzledGrid_tiles (some : 0 < rows) (others : 0 < columns) (tall : 0 < tileRows)
    (broad : 0 < tileColumns) (sliced : 0 < slices) (rowsFit : rows < 2 ^ 31)
    (columnsFit : columns < 2 ^ 31) (slicesFit : slices < 2 ^ 31) (swizzle : Swizzle) :
    (swizzledGrid (ceilDiv rows tileRows) (ceilDiv columns tileColumns) swizzle.logTile
      slices).Tiles rows columns tileRows tileColumns (2 ^ swizzle.logTile) slices := by
  have grouped : 0 < 2 ^ swizzle.logTile := Nat.two_pow_pos swizzle.logTile
  have first : (lowWord (ceilDiv rows tileRows * (2 ^ swizzle.logTile : Nat))).toNat =
      (rows ⌈/⌉ tileRows) * 2 ^ swizzle.logTile % 2 ^ 32 := by
    rw [ceilDiv_natCast rows tall, ← Int.natCast_mul, toNat_lowWord_natCast]
  have second : (lowWord (ceilDiv (ceilDiv columns tileColumns)
      (2 ^ swizzle.logTile : Nat))).toNat = (columns ⌈/⌉ tileColumns) ⌈/⌉ 2 ^ swizzle.logTile := by
    have few := (ceilDiv_le_extent _ grouped).trans (ceilDiv_le_extent columns broad)
    rw [ceilDiv_natCast columns broad, ceilDiv_natCast _ grouped, toNat_lowWord_natCast]
    exact Nat.mod_eq_of_lt (by omega)
  have third : (lowWord slices).toNat = slices := by
    rw [toNat_lowWord_natCast, Nat.mod_eq_of_lt (by omega)]
  constructor
  case first => exact first
  case second => exact second
  case third => exact third
  case members =>
    intro fits
    refine ⟨?_, ?_, ?_⟩
    · exact (Nat.mul_pos (ceilDiv_positive some tall) grouped).trans_eq
        (first.trans (Nat.mod_eq_of_lt fits)).symm
    · exact (ceilDiv_positive (ceilDiv_positive others broad) grouped).trans_eq second.symm
    · exact sliced.trans_eq third.symm
  case coversColumns =>
    have tiles := le_ceilDiv_mul (columns ⌈/⌉ tileColumns) grouped
    exact (le_ceilDiv_mul columns broad).trans
      (second ▸ Nat.mul_le_mul_right tileColumns tiles)
  case coversRows =>
    exact first ▸ cut_covers_iff tall grouped
  case wide =>
    exact fun wide => ceilDiv_mul_lt rowsFit wide swizzle.two_pow_logTile_le

/-- The grid of an output whose extents and slices are positive words. -/
theorem Operation.swizzledGrid_words {m n sliceCount : Int32} (some : 0 < m.toInt)
    (others : 0 < n.toInt) (sliced : 0 < sliceCount.toInt) (tall : 0 < tileRows)
    (broad : 0 < tileColumns) (swizzle : Swizzle) :
    (swizzledGrid (ceilDiv m.toInt tileRows) (ceilDiv n.toInt tileColumns) swizzle.logTile
      sliceCount.toInt).Tiles m.toInt.toNat n.toInt.toNat tileRows tileColumns
      (2 ^ swizzle.logTile) sliceCount.toInt.toNat := by
  have := m.toInt_lt
  have := n.toInt_lt
  have := sliceCount.toInt_lt
  have grid : (swizzledGrid (ceilDiv m.toInt.toNat tileRows) (ceilDiv n.toInt.toNat tileColumns)
      swizzle.logTile sliceCount.toInt.toNat).Tiles m.toInt.toNat n.toInt.toNat tileRows
      tileColumns (2 ^ swizzle.logTile) sliceCount.toInt.toNat :=
    swizzledGrid_tiles (by omega) (by omega) tall broad (by omega) (by omega) (by omega) (by omega)
      swizzle
  rw [Int.toNat_of_nonneg some.le, Int.toNat_of_nonneg others.le, Int.toNat_of_nonneg sliced.le]
    at grid
  exact grid

/-- A launch of a tile over an output of `rows` by `columns` elements has a grid of tiles. There is
none exactly if the threads of a block or the bits of shared memory are no word, which the program
stops for. -/
structure TileDescription.Launches (tile : TileDescription) (a b : ElementType)
    (rows columns group slices : Nat) (asked : Except ArgumentError LaunchConfig) : Prop where
  launched : tile.Counted a.bits b.bits → ∃ launch, asked = .ok launch ∧
    launch.grid.Tiles rows columns tile.block.m.toNat tile.block.n.toNat group slices
  stopped : ¬tile.Counted a.bits b.bits → asked = .error .stopped

/-- The launch of a checked tile on its grid. -/
theorem TileDescription.Extents.launches {tile : TileDescription} (extents : tile.Extents)
    {a b : ElementType} {grid : LaunchExtent}
    (tiles : grid.Tiles rows columns tile.block.m.toNat tile.block.n.toNat group slices) :
    tile.Launches a b rows columns group slices
      (launchTiled tile (tile.sharedMemoryBytes a.bits b.bits) grid) where
  launched counted := by
    obtain ⟨launch, asked, same⟩ := extents.launchTiled_ok grid counted
    exact ⟨launch, asked, same ▸ tiles⟩
  stopped := extents.launchTiled_stopped grid

/-- An output that is launched is counted. -/
theorem TileDescription.Launches.exists_iff {tile : TileDescription} {a b : ElementType}
    {asked : Except ArgumentError LaunchConfig}
    (launches : tile.Launches a b rows columns group slices asked) :
    (∃ launch, asked = .ok launch) ↔ tile.Counted a.bits b.bits := by
  constructor
  · rintro ⟨launch, ready⟩
    by_contra large
    cases ready.symm.trans (launches.stopped large)
  · intro counted
    obtain ⟨launch, ready, -⟩ := launches.launched counted
    exact ⟨launch, ready⟩

/-- The grid of a launch that there is. -/
theorem TileDescription.Launches.tiles {tile : TileDescription} {a b : ElementType}
    {asked : Except ArgumentError LaunchConfig} {launch : LaunchConfig}
    (launches : tile.Launches a b rows columns group slices asked) (ready : asked = .ok launch) :
    launch.grid.Tiles rows columns tile.block.m.toNat tile.block.n.toNat group slices := by
  obtain ⟨other, same, tiles⟩ := launches.launched (launches.exists_iff.mp ⟨launch, ready⟩)
  cases ready.symm.trans same
  exact tiles

namespace GemmOperation

variable {operation : GemmOperation} {arguments : GemmArguments}

/-- The number of slices of all batch members, of which only one is above one. -/
theorem Accepts.toInt_slices (numbers : operation.Accepts arguments) :
    (arguments.splitKSlices * arguments.batchCount).toInt =
      arguments.splitKSlices.toInt * arguments.batchCount.toInt := by
  rcases numbers.either with single | single
  · rw [eq_one_of_toInt numbers.batches single, Int32.mul_one, Int32.toInt_one, Int.mul_one]
  · rw [eq_one_of_toInt numbers.slices single, Int32.one_mul, Int32.toInt_one, Int.one_mul]

/-- The launch of an accepted universal product. -/
theorem launchConfig_launches (made : operation.Made) (universal : operation.kind = .universal)
    (accepted : operation.validateArguments arguments = .ok ()) (device : DeviceInfo) :
    operation.tile.Launches operation.a.element operation.b.element
      arguments.problem.m.toInt.toNat arguments.problem.n.toInt.toNat
      (2 ^ operation.swizzle.logTile)
      (arguments.splitKSlices.toInt.toNat * arguments.batchCount.toInt.toNat)
      (operation.launchConfig arguments device) := by
  have numbers := validateArguments_ok.mp accepted
  have extents := TileDescription.extents_of_checkTile made.tile
  have slices := numbers.toInt_slices
  have sliced : 0 < (arguments.splitKSlices * arguments.batchCount).toInt :=
    slices ▸ Int.mul_pos numbers.slices numbers.batches
  have grid := swizzledGrid_words numbers.rows numbers.columns sliced extents.rows extents.columns
    operation.swizzle
  have product : (arguments.splitKSlices * arguments.batchCount).toInt.toNat =
      arguments.splitKSlices.toInt.toNat * arguments.batchCount.toInt.toNat := by
    have := numbers.slices
    have := numbers.batches
    rw [slices, Int.toNat_mul (by omega) (by omega)]
  rw [product] at grid
  unfold launchConfig tiles
  rw [accepted, tilesCovering_positive _ extents.rows, tilesCovering_positive _ extents.columns,
    universal]
  exact extents.launches grid

end GemmOperation

namespace ConvolutionOperation

variable {operation : ConvolutionOperation} {arguments : ConvolutionArguments}

/-- The launch of an accepted convolution. -/
theorem launchConfig_launches (made : operation.Made)
    (accepted : operation.validateArguments arguments = .ok ()) :
    operation.tile.Launches operation.a.element operation.b.element
      (operation.outputExtent arguments.problem).1.toNat
      (operation.outputExtent arguments.problem).2.toNat (2 ^ operation.swizzle.logTile)
      arguments.problem.splitKSlices.toInt.toNat (operation.launchConfig arguments) := by
  have valid := (validateArguments_ok.mp accepted).valid
  have extents := TileDescription.extents_of_checkTile made.tile
  obtain ⟨rows, columns, -⟩ := implicitGemm_positive operation valid
  have grid := swizzledGrid_words rows columns valid.slices extents.rows extents.columns
    operation.swizzle
  rw [← toInt_implicitGemm operation valid]
  unfold launchConfig
  rw [accepted, max_one valid.slices]
  dsimp only
  rw [tilesCovering_positive _ extents.rows, tilesCovering_positive _ extents.columns]
  exact extents.launches grid

end ConvolutionOperation

namespace Operation

/-- Accepted arguments of a universal product or of a convolution have a launch, unless the threads
of a block or the bits of shared memory are no word. Its grid has a block for every tile of the
output and every slice, and covers the output, exactly if the rows of tiles times the columns in a
group fit a word; they do for tiles of more than four rows. -/
theorem launchConfig_covers (product : GemmOperation) (arguments : GemmArguments)
    (device : DeviceInfo) (convolution : ConvolutionOperation)
    (arguments' : ConvolutionArguments) :
    (product.Made → product.kind = .universal → product.validateArguments arguments = .ok () →
      product.tile.Launches product.a.element product.b.element
        arguments.problem.m.toInt.toNat arguments.problem.n.toInt.toNat
        (2 ^ product.swizzle.logTile)
        (arguments.splitKSlices.toInt.toNat * arguments.batchCount.toInt.toNat)
        (product.launchConfig arguments device)) ∧
    (convolution.Made → convolution.validateArguments arguments' = .ok () →
      convolution.tile.Launches convolution.a.element convolution.b.element
        (convolution.outputExtent arguments'.problem).1.toNat
        (convolution.outputExtent arguments'.problem).2.toNat (2 ^ convolution.swizzle.logTile)
        arguments'.problem.splitKSlices.toInt.toNat (convolution.launchConfig arguments')) := by
  constructor
  · intro made universal accepted
    exact GemmOperation.launchConfig_launches made universal accepted device
  · intro made accepted
    exact ConvolutionOperation.launchConfig_launches made accepted

/-- A product of 300 by 200 elements and a convolution with 32 by 12 elements of output. -/
theorem launchConfig_covers_catalog : ∃ (product : GemmOperation) (arguments : GemmArguments)
    (convolution : ConvolutionOperation) (arguments' : ConvolutionArguments),
    product.Made ∧ product.validateArguments arguments = .ok () ∧ convolution.Made ∧
      convolution.validateArguments arguments' = .ok () ∧
      (∃ launch, product.launchConfig arguments (.host 8) = .ok launch ∧
        launch.grid.Tiles 300 200 128 128 2 3) ∧
      ∃ launch, convolution.launchConfig arguments' = .ok launch ∧
        launch.grid.Tiles 32 12 128 128 1 1 := by
  obtain ⟨first, created⟩ : ∃ first,
      Catalog.gemm 80 .f32 Catalog.transposed .universal = .ok first := ⟨_, rfl⟩
  obtain ⟨product, swizzled⟩ : ∃ product, first.withSwizzle .identity2 = .ok product := by
    cases created
    exact ⟨_, rfl⟩
  have made := GemmOperation.Made.withSwizzle (GemmOperation.made_of_catalog created) swizzled
  obtain ⟨convolution, found⟩ : ∃ convolution,
      Catalog.convolution 80 .f32 .fprop = .ok convolution := ⟨_, rfl⟩
  have made' := ConvolutionOperation.made_of_catalog found
  let arguments : GemmArguments :=
    { product.arguments ⟨300, 200, 50⟩ ⟨1⟩ ⟨1⟩ ⟨1⟩ ⟨1⟩ with batchCount := 3 }
  let arguments' : ConvolutionArguments :=
    { problem := .ofExtents ⟨2, 4, 4, 8⟩ ⟨12, 1, 1, 8⟩ ⟨0, 0⟩ ⟨1, 1⟩ ⟨1, 1⟩ 0 1 1
      pointerA := ⟨1⟩, pointerB := ⟨1⟩, pointerC := ⟨1⟩, pointerD := ⟨1⟩ }
  have accepted : product.validateArguments arguments = .ok () := by
    cases created
    cases swizzled
    decide +kernel
  have accepted' : convolution.validateArguments arguments' = .ok () := by
    cases found
    decide +kernel
  obtain ⟨products, convolutions⟩ :=
    launchConfig_covers product arguments (.host 8) convolution arguments'
  refine ⟨product, arguments, convolution, arguments', made, accepted, made', accepted', ?_, ?_⟩
  · cases created
    cases swizzled
    exact (products made rfl accepted).launched ⟨by decide, by decide⟩
  · cases found
    exact (convolutions made' accepted').launched ⟨by decide, by decide⟩

/-- Rows of tiles that are cut to one row. -/
theorem launchConfig_uncovered : ∃ (operation : GemmOperation) (arguments : GemmArguments)
    (launch : LaunchConfig), operation.Made ∧ operation.kind = .universal ∧
      operation.validateArguments arguments = .ok () ∧
      operation.launchConfig arguments (.host 8) = .ok launch ∧
      operation.tile.block = ⟨1, 1, 1⟩ ∧ operation.swizzle = .identity8 ∧
      arguments.problem = ⟨536870913, 1, 1⟩ ∧ launch.grid = ⟨8, 1, 1⟩ ∧
      launch.grid.x.toNat ≠ (536870913 ⌈/⌉ 1) * 2 ^ operation.swizzle.logTile ∧
      ¬536870913 ≤ launch.grid.x.toNat / 2 ^ operation.swizzle.logTile *
        operation.tile.block.m.toNat := by
  obtain ⟨first, created⟩ : ∃ first,
      GemmOperation.create .universal 80
        ⟨⟨1, 1, 1⟩, 1, ⟨1, 1, 1⟩, ⟨⟨1, 1, 1⟩, .f32, .f32, .f32, .simt, .multiplyAdd⟩⟩
        ⟨.f32, .rowMajor, 1⟩ ⟨.f32, .rowMajor, 1⟩ ⟨.f32, .rowMajor, 1⟩
        (Catalog.epilogueFor .f32 1) = .ok first := ⟨_, rfl⟩
  obtain ⟨operation, swizzled⟩ : ∃ operation, first.withSwizzle .identity8 = .ok operation := by
    cases created
    exact ⟨_, rfl⟩
  have made := GemmOperation.Made.withSwizzle (.create created) swizzled
  refine ⟨operation, operation.arguments ⟨536870913, 1, 1⟩ ⟨1⟩ ⟨1⟩ ⟨1⟩ ⟨1⟩,
    ⟨⟨8, 1, 1⟩, ⟨32, 1, 1⟩, 8⟩, made, ?_, ?_, ?_, ?_, ?_, rfl, rfl, ?_, ?_⟩
  all_goals
    cases created
    cases swizzled
    decide +kernel

end Operation

end DeviceKernels
