import DeviceKernels.Proofs.Operation.ReductionArguments
import DeviceKernels.Proofs.Operation.Workspace

/-
What a reduction reads and writes. The threads of a launch take one vector access each, so that an
element has a block, a thread of the block and a place in the access of the thread.
-/

namespace DeviceKernels

open Number Operation Outcome

/-- A number is written with two digits in one way. -/
theorem Number.mul_add_eq_iff {base quotient remainder value : Nat} (small : remainder < base) :
    quotient * base + remainder = value ↔ quotient = value / base ∧ remainder = value % base := by
  have digits := Nat.div_mod_unique (Nat.zero_lt_of_lt small) (a := value) (c := remainder)
    (d := quotient)
  rw [Nat.mul_comm, Nat.add_comm, eq_comm (a := quotient), eq_comm (a := remainder), digits]
  exact ⟨fun equal => ⟨equal, small⟩, fun equal => equal.1⟩

/-- A product that is a 64-bit word is not cut. -/
theorem Number.toInt_mul_of_isWord64 {first second : Int64}
    (word : IsWord64 (first.toInt * second.toInt)) :
    (first * second).toInt = first.toInt * second.toInt := by
  have product : first * second = Int64.ofInt (first.toInt * second.toInt) := by
    rw [Int64.ofInt_mul, Int64.ofInt_toInt, Int64.ofInt_toInt]
  rw [product, toInt_ofInt_of_isWord64 word]

/-- The place of a block in its grid, or of a thread in its block. -/
structure LaunchPosition where
  x : Nat
  y : Nat
  z : Nat
  deriving DecidableEq

def LaunchPosition.Within (extent : LaunchExtent) (position : LaunchPosition) : Prop :=
  position.x < extent.x.toNat ∧ position.y < extent.y.toNat ∧ position.z < extent.z.toNat

/-- One element of the vector access of a thread. -/
structure LaunchLane where
  block : LaunchPosition
  thread : LaunchPosition
  element : Nat
  deriving DecidableEq

namespace LaunchLane

/-- The lanes of a launch whose threads access `count` elements each. -/
structure Within (launch : LaunchConfig) (count : Nat) (lane : LaunchLane) : Prop where
  block : lane.block.Within launch.grid
  thread : lane.thread.Within launch.block
  element : lane.element < count

/-- The row of a lane: every row of threads takes a row of the matrix. -/
def row (launch : LaunchConfig) (lane : LaunchLane) : Nat :=
  lane.block.y * launch.block.y.toNat + lane.thread.y

/-- The column of a lane: the accesses of the threads in a row follow each other. -/
def column (launch : LaunchConfig) (count : Nat) (lane : LaunchLane) : Nat :=
  (lane.block.x * launch.block.x.toNat + lane.thread.x) * count + lane.element

/-- The lane of an element of the matrix. -/
def locate (launch : LaunchConfig) (count row column : Nat) : LaunchLane where
  block := ⟨column / count / launch.block.x.toNat, row / launch.block.y.toNat, 0⟩
  thread := ⟨column / count % launch.block.x.toNat, row % launch.block.y.toNat, 0⟩
  element := column % count

/-- A lane of a flat launch takes an element exactly if it is the lane of the element. -/
theorem reaches_iff {launch : LaunchConfig} {count row column : Nat} {lane : LaunchLane}
    (flat : launch.grid.z = 1 ∧ launch.block.z = 1) (within : lane.Within launch count) :
    lane.row launch = row ∧ lane.column launch count = column ↔
      lane = locate launch count row column := by
  obtain ⟨⟨-, -, depth⟩, ⟨wide, tall, depth'⟩, small⟩ := within
  rw [flat.1, UInt32.toNat_one, Nat.lt_one_iff] at depth
  rw [flat.2, UInt32.toNat_one, Nat.lt_one_iff] at depth'
  obtain ⟨⟨bx, by', bz⟩, ⟨tx, ty, tz⟩, element⟩ := lane
  dsimp only at depth depth' wide tall small
  simp only [LaunchLane.row, LaunchLane.column, locate, mul_add_eq_iff small, mul_add_eq_iff wide,
    mul_add_eq_iff tall, LaunchLane.mk.injEq, LaunchPosition.mk.injEq, depth, depth', and_true]
  tauto

end LaunchLane

/-- A launch covers a matrix with accesses of `count` elements: every element has exactly one lane,
and every block has an element. -/
structure LaunchConfig.Covers (launch : LaunchConfig) (count rows columns : Nat) : Prop where
  once : ∀ row < rows, ∀ column < columns, ∃! lane : LaunchLane,
    lane.Within launch count ∧ lane.row launch = row ∧ lane.column launch count = column
  filled : ∀ block : LaunchPosition, block.Within launch.grid → ∃ lane : LaunchLane,
    lane.block = block ∧ lane.Within launch count ∧ lane.row launch < rows ∧
      lane.column launch count < columns

/-- A flat launch with as many blocks as there are tiles, of a tile for the accesses of a block. -/
structure LaunchConfig.Tiled (launch : LaunchConfig) (count rows columns : Nat) : Prop where
  flat : launch.grid.z = 1 ∧ launch.block.z = 1
  wide : 0 < launch.block.x.toNat
  tall : 0 < launch.block.y.toNat
  some : 0 < count
  columns : launch.grid.x.toNat = columns ⌈/⌉ (launch.block.x.toNat * count)
  rows : launch.grid.y.toNat = rows ⌈/⌉ launch.block.y.toNat

namespace LaunchConfig.Tiled

variable {launch : LaunchConfig} {count rows columns row column : Nat}

/-- The lane of an element of the matrix is a lane of the launch. -/
theorem within_locate (tiled : launch.Tiled count rows columns) (inside : row < rows)
    (inside' : column < columns) :
    (LaunchLane.locate launch count row column).Within launch count := by
  have blocks : column / count / launch.block.x.toNat < launch.grid.x.toNat := by
    rw [Nat.div_div_eq_div_mul, Nat.mul_comm count, tiled.columns,
      Nat.div_lt_iff_lt_mul (Nat.mul_pos tiled.wide tiled.some)]
    exact inside'.trans_le (le_ceilDiv_mul columns (Nat.mul_pos tiled.wide tiled.some))
  have blocks' : row / launch.block.y.toNat < launch.grid.y.toNat := by
    rw [tiled.rows, Nat.div_lt_iff_lt_mul tiled.tall]
    exact inside.trans_le (le_ceilDiv_mul rows tiled.tall)
  constructor
  case block => exact ⟨blocks, blocks', tiled.flat.1 ▸ Nat.zero_lt_one⟩
  case thread =>
    exact ⟨Nat.mod_lt _ tiled.wide, Nat.mod_lt _ tiled.tall, tiled.flat.2 ▸ Nat.zero_lt_one⟩
  case element => exact Nat.mod_lt column tiled.some

theorem covers (tiled : launch.Tiled count rows columns) : launch.Covers count rows columns where
  once row inside column inside' := by
    have within := tiled.within_locate inside inside'
    refine ⟨LaunchLane.locate launch count row column, ⟨within, ?_⟩, ?_⟩
    · exact (LaunchLane.reaches_iff tiled.flat within).mpr rfl
    · rintro lane ⟨within', reaches⟩
      exact (LaunchLane.reaches_iff tiled.flat within').mp reaches
  filled block within := by
    obtain ⟨first, second, -⟩ := id within
    -- The first lane of the first thread is the corner of the tile.
    let corner : LaunchLane := ⟨block, ⟨0, 0, 0⟩, 0⟩
    have thread : corner.thread.Within launch.block :=
      ⟨tiled.wide, tiled.tall, tiled.flat.2 ▸ Nat.zero_lt_one⟩
    refine ⟨corner, rfl, ⟨within, thread, tiled.some⟩, ?_, ?_⟩
    · exact mul_lt_of_lt_ceilDiv tiled.tall (tiled.rows ▸ second)
    · have few := mul_lt_of_lt_ceilDiv (Nat.mul_pos tiled.wide tiled.some) (tiled.columns ▸ first)
      rwa [← Nat.mul_assoc] at few

end LaunchConfig.Tiled

namespace ReductionArguments

/-- The rows and columns that a reduction writes. -/
def results (arguments : ReductionArguments) : Set (Nat × Nat) :=
  {element | element.1 < arguments.problem.row.toInt.toNat ∧
    element.2 < arguments.problem.column.toInt.toNat}

/-- Where a reduction stores a row and column. -/
def resultOffset (arguments : ReductionArguments) (element : Nat × Nat) : Int :=
  element.1 * arguments.leadingDestination.toInt + element.2

end ReductionArguments

namespace ReductionOperation

variable {operation : ReductionOperation} {arguments : ReductionArguments}

/-- The partial sums and the results have places of their own, and the rows of all matrices begin at
whole accesses. The rows of a matrix of partial sums fit its stride in 64-bit words. -/
structure Addresses (operation : ReductionOperation) (arguments : ReductionArguments) : Prop where
  partials : Set.InjOn arguments.partialOffset arguments.partials
  stacked : 1 < arguments.partitions →
    arguments.problem.row.toInt64 * arguments.leadingWorkspace ≤ arguments.partitionStride
  results : Set.InjOn arguments.resultOffset arguments.results
  workspaceRows : ∀ row : Nat,
    (operation.count.toNat : Int) ∣ row * arguments.leadingWorkspace.toInt
  destinationRows : ∀ row : Nat,
    (operation.count.toNat : Int) ∣ row * arguments.leadingDestination.toInt
  sourceRows : ∀ row : Nat,
    (operation.count.toNat : Int) ∣ row * arguments.leadingSource.toInt

/-- Accepted partial sums have places of their own. -/
theorem Accepts.partialOffset_injOn (numbers : operation.Accepts arguments) :
    Set.InjOn arguments.partialOffset arguments.partials := by
  have rows := Int.toNat_of_nonneg numbers.rows.le
  have columns := Int.toNat_of_nonneg numbers.columns.le
  apply OutputElement.injOn_offset_of_stacked
  case some => exact Int.pos_iff_toNat_pos.mp numbers.rows
  case others => exact Int.pos_iff_toNat_pos.mp numbers.columns
  case covers => exact columns ▸ numbers.workspace.covers
  case stacked =>
    intro several
    rw [rows]
    exact numbers.apart (by omega)

/-- Accepted results have places of their own. -/
theorem Accepts.resultOffset_injOn (numbers : operation.Accepts arguments) :
    Set.InjOn arguments.resultOffset arguments.results := by
  have columns := Int.toNat_of_nonneg numbers.columns.le
  rintro ⟨row, column⟩ ⟨-, reach⟩ ⟨row', column'⟩ ⟨-, reach'⟩ same
  -- A matrix of results is a batch with a single member.
  have member : OutputElement.offset arguments.leadingDestination.toInt 0 ⟨0, row, column⟩ =
      OutputElement.offset arguments.leadingDestination.toInt 0 ⟨0, row', column'⟩ :=
    congrArg (_ + ·) same
  have equal : (⟨0, row, column⟩ : OutputElement) = ⟨0, row', column'⟩ :=
    OutputElement.eq_of_offset_eq (columns ▸ numbers.destination.covers) reach reach' rfl member
  obtain ⟨-, rfl, rfl⟩ := OutputElement.mk.inj equal
  rfl

/-- The rows of a matrix begin at whole accesses. -/
theorem Leads.dvd_row {leading columns : Int} (leads : operation.Leads leading columns)
    (some : operation.count ≠ 0) (row : Nat) : (operation.count.toNat : Int) ∣ row * leading :=
  Dvd.dvd.mul_left ((aligned_iff_dvd some).mp leads.aligned) row

theorem Accepts.addresses (numbers : operation.Accepts arguments) (some : operation.count ≠ 0)
    (word : IsWord64 (arguments.problem.row.toInt * arguments.leadingWorkspace.toInt)) :
    operation.Addresses arguments where
  partials := numbers.partialOffset_injOn
  stacked several := by
    rw [Int32.lt_iff_toInt_lt, Int32.toInt_one] at several
    rw [Int64.le_iff_toInt_le, toInt_mul_of_isWord64 (by rwa [Int32.toInt_toInt64]),
      Int32.toInt_toInt64]
    exact numbers.apart several
  results := numbers.resultOffset_injOn
  workspaceRows := numbers.workspace.dvd_row some
  destinationRows := numbers.destination.dvd_row some
  sourceRows := numbers.source.dvd_row some

/-- The launch of accepted arguments is tiled, as long as the columns of a block fit a word. -/
theorem Accepts.launchConfig_tiled (numbers : operation.Accepts arguments)
    (some : operation.count ≠ 0) (tall : 0 < operation.shape.rows.toNat)
    (wide : 0 < operation.shape.columns.toNat)
    (narrow : operation.shape.columns.toNat * operation.count.toNat < 2 ^ 32) :
    ∃ launch, operation.launchConfig arguments = .ok launch ∧
      launch.Tiled operation.count.toNat arguments.problem.row.toInt.toNat
        arguments.problem.column.toInt.toNat := by
  have counted := toNat_positive some
  obtain ⟨width, kept⟩ := checked32_of_lt (show operation.columnsPerBlock < 2 ^ 32 from narrow)
  have across : width.toNat = operation.shape.columns.toNat * operation.count.toNat :=
    checked32_eq_some.mp kept
  have broad : 0 < width.toNat := across ▸ Nat.mul_pos wide counted
  refine ⟨_, checked_iff.mpr ⟨validateArguments_ok.mpr numbers, bound_iff.mpr ⟨width,
    computed_ok.mpr kept, bound_iff.mpr ⟨_, tilesCovering_positive _ broad,
      bound_iff.mpr ⟨_, tilesCovering_positive _ tall, rfl⟩⟩⟩⟩, ?_⟩
  constructor
  case flat => exact ⟨rfl, rfl⟩
  case wide => exact wide
  case tall => exact tall
  case some => exact counted
  case columns => exact across ▸ toNat_lowWord_ceilDiv numbers.columns broad
  case rows => exact toNat_lowWord_ceilDiv numbers.rows tall

/-- Accepted arguments of a reduction keep partial sums and results apart and the rows of all
matrices aligned. They have a launch, and it covers the matrix, as long as the columns of a block
fit a word. -/
theorem accepted_addresses_covers (made : Operation.Made (.reduction operation))
    (narrow : 32 * operation.count.toNat < 2 ^ 32)
    (accepted : operation.validateArguments arguments = .ok ())
    (word : IsWord64 (arguments.problem.row.toInt * arguments.leadingWorkspace.toInt)) :
    operation.Addresses arguments ∧
      ∃ launch, operation.launchConfig arguments = .ok launch ∧
        launch.Covers operation.count.toNat arguments.problem.row.toInt.toNat
          arguments.problem.column.toInt.toNat := by
  have numbers := validateArguments_ok.mp accepted
  cases made with
  | reduction arch elementAccumulator epilogue =>
      have some := access_ne_zero epilogue.elementsPerAccess
      obtain ⟨launch, asked, tiled⟩ :=
        numbers.launchConfig_tiled some (show 0 < 4 by decide) (show 0 < 32 by decide) narrow
      exact ⟨numbers.addresses some word, launch, asked, tiled.covers⟩

/-- Three partitions of ten rows by 520 columns, with gaps after the rows and the partitions. The
last blocks of either direction reach beyond the matrix. -/
theorem accepted_addresses_covers_ragged :
    ∃ (arguments : ReductionArguments) (launch : LaunchConfig),
      (Catalog.reduction 80 .f16).validateArguments arguments = .ok () ∧
        arguments.problem = ⟨10, 520⟩ ∧ arguments.partitions = 3 ∧
        arguments.partitionStride = 5288 ∧ arguments.leadingWorkspace = 528 ∧
        (Catalog.reduction 80 .f16).Addresses arguments ∧
        (Catalog.reduction 80 .f16).launchConfig arguments = .ok launch ∧
        launch.grid = ⟨3, 3, 1⟩ ∧ launch.block = ⟨32, 4, 1⟩ ∧ launch.Covers 8 10 520 := by
  let arguments : ReductionArguments :=
    { ReductionArguments.dense ⟨10, 520⟩ 3 ⟨1⟩ ⟨1⟩ ⟨1⟩ with
      partitionStride := 5288, leadingWorkspace := 528, leadingDestination := 536 }
  have accepted : (Catalog.reduction 80 .f16).validateArguments arguments = .ok () := by
    decide +kernel
  have found : (Catalog.reduction 80 .f16).launchConfig arguments =
      .ok ⟨⟨3, 3, 1⟩, ⟨32, 4, 1⟩, 0⟩ := by decide +kernel
  obtain ⟨addresses, launch, asked, covers⟩ :=
    accepted_addresses_covers (.reduction 80 .f32 _) (by decide) accepted (by decide)
  obtain rfl := Except.ok.inj (found.symm.trans asked)
  exact ⟨arguments, _, accepted, rfl, rfl, rfl, rfl, addresses, asked, rfl, rfl, covers⟩

end ReductionOperation

end DeviceKernels
