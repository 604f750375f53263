import DeviceKernels.Proofs.Operation.Checks

/-
The threads and the shared memory of a checked tile, as exact numbers.
-/

namespace DeviceKernels

open Number Operation Outcome

/-- A number that is no word stays none when it is multiplied. -/
theorem Number.checked32_bind_product (number : Nat) {factor : UInt32} (some : 0 < factor.toNat) :
    (checked32 number).bind (checkedProduct · factor) = checked32 (number * factor.toNat) := by
  have more : number ≤ number * factor.toNat := Nat.le_mul_of_pos_right number some
  by_cases fits : number < UInt32.size
  · have word : (UInt32.ofNat number).toNat = number := UInt32.toNat_ofNat_of_lt' fits
    rw [checked32, if_pos fits, Option.bind_some, checkedProduct, word]
  · have large : ¬number * factor.toNat < UInt32.size := by omega
    rw [checked32, if_neg fits, checked32, if_neg large, Option.bind_none]

/-- A number that is no word stays none when another is added. -/
theorem Number.checked32_bind_sum (first second : Nat) :
    ((checked32 first).bind fun word => (checked32 second).bind (checkedSum word)) =
      checked32 (first + second) := by
  by_cases fits : first < UInt32.size
  · have word : (UInt32.ofNat first).toNat = first := UInt32.toNat_ofNat_of_lt' fits
    rw [checked32, if_pos fits, Option.bind_some]
    by_cases fits' : second < UInt32.size
    · have word' : (UInt32.ofNat second).toNat = second := UInt32.toNat_ofNat_of_lt' fits'
      rw [checked32, if_pos fits', Option.bind_some, checkedSum, word, word']
    · have large : ¬first + second < UInt32.size := by omega
      rw [checked32, if_neg fits', checked32, if_neg large, Option.bind_none]
  · have large : ¬first + second < UInt32.size := by omega
    rw [checked32, if_neg fits, Option.bind_none, checked32, if_neg large]

namespace TileDescription

variable {tile : TileDescription}

/-- A checked tile has extents in every dimension, as its warps have, and stages. -/
structure Extents (tile : TileDescription) : Prop where
  rows : 0 < tile.block.m.toNat
  columns : 0 < tile.block.n.toNat
  depth : 0 < tile.block.k.toNat
  warpRows : 0 < tile.warps.m.toNat
  warpColumns : 0 < tile.warps.n.toNat
  warpDepth : 0 < tile.warps.k.toNat
  stages : 0 < tile.stages.toNat

theorem extents_of_checkTile (checked : checkTile tile = .ok ()) : tile.Extents := by
  have accepted : tile.validate = .ok () := mapError_ok.mp checked
  unfold validate at accepted
  obtain ⟨block, accepted⟩ := refused_iff.mp accepted
  obtain ⟨warps, accepted⟩ := refused_iff.mp accepted
  obtain ⟨stages, -⟩ := refused_iff.mp accepted
  simp only [TileShape.toList, List.any_cons, List.any_nil, Bool.or_eq_true, beq_iff_eq, not_or]
    at block warps stages
  exact ⟨toNat_positive block.1, toNat_positive block.2.1, toNat_positive block.2.2.1,
    toNat_positive warps.1, toNat_positive warps.2.1, toNat_positive warps.2.2.1,
    toNat_positive stages⟩

/-- The threads of a block. -/
def threadCount (tile : TileDescription) : Nat :=
  tile.warps.m.toNat * tile.warps.n.toNat * tile.warps.k.toNat * 32

/-- The bits of all stages in shared memory, for operands of the given widths. -/
def sharedBits (tile : TileDescription) (bitsA bitsB : Nat) : Nat :=
  (tile.block.m.toNat * tile.block.k.toNat * bitsA +
    tile.block.n.toNat * tile.block.k.toNat * bitsB) * tile.stages.toNat

/-- The threads and the bits are 32-bit words. -/
structure Counted (tile : TileDescription) (bitsA bitsB : Nat) : Prop where
  threads : tile.threadCount < 2 ^ 32
  bits : tile.sharedBits bitsA bitsB < 2 ^ 32

/-- The threads are counted if their number is a word. -/
theorem Extents.threads_eq (extents : tile.Extents) :
    tile.threads = checked32 tile.threadCount := by
  unfold threads
  rw [checkedProduct, checked32_bind_product _ extents.warpDepth,
    checked32_bind_product _ (show 0 < warpSize.toNat by decide)]
  rfl

/-- The bits of one stage are counted if their number is a word. -/
theorem stageBits_eq (tile : TileDescription) (lines : UInt32) (element : ElementType) :
    tile.stageBits lines element.bits =
      checked32 (lines.toNat * tile.block.k.toNat * element.bits) := by
  have bits : (UInt32.ofNat element.bits).toNat = element.bits := by cases element <;> rfl
  unfold stageBits
  rw [checkedProduct, checked32_bind_product _ (bits.symm ▸ element.bitsPositive), bits]

/-- Shared memory is counted if the bits of all stages are a word. -/
theorem Extents.sharedMemoryBytes_eq (extents : tile.Extents) (a b : ElementType) :
    tile.sharedMemoryBytes a.bits b.bits =
      (checked32 (tile.sharedBits a.bits b.bits)).map (· / 8) := by
  unfold sharedMemoryBytes
  rw [stageBits_eq, stageBits_eq]
  dsimp only
  rw [checked32_bind_sum, checked32_bind_product _ extents.stages]
  rfl

/-- The launch of a checked tile on a grid, unless the program stops while it counts. -/
theorem Extents.launchTiled_ok (extents : tile.Extents) {a b : ElementType} (grid : LaunchExtent)
    (counted : tile.Counted a.bits b.bits) : ∃ launch,
      launchTiled tile (tile.sharedMemoryBytes a.bits b.bits) grid = .ok launch ∧
        launch.grid = grid := by
  obtain ⟨threads, kept⟩ := checked32_of_lt counted.threads
  obtain ⟨bits, kept'⟩ := checked32_of_lt counted.bits
  unfold launchTiled
  rw [extents.threads_eq, extents.sharedMemoryBytes_eq, kept, kept']
  exact ⟨_, rfl, rfl⟩

theorem Extents.launchTiled_stopped (extents : tile.Extents) {a b : ElementType}
    (grid : LaunchExtent) (large : ¬tile.Counted a.bits b.bits) :
    launchTiled tile (tile.sharedMemoryBytes a.bits b.bits) grid = .error .stopped := by
  unfold launchTiled
  rw [extents.threads_eq, extents.sharedMemoryBytes_eq]
  by_cases threads : tile.threadCount < UInt32.size
  · have bits : ¬tile.sharedBits a.bits b.bits < UInt32.size := fun bits => large ⟨threads, bits⟩
    rw [checked32, if_pos threads, checked32, if_neg bits]
    rfl
  · rw [checked32, if_neg threads]
    rfl

end TileDescription

end DeviceKernels
