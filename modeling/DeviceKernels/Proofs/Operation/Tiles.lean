import DeviceKernels.Proofs.Operation.Checks
import Mathlib.Algebra.Order.Floor.Div
import Mathlib.Tactic.ByContra

namespace DeviceKernels

open Number Operation

/-- The quotient that rounds up, of natural numbers. -/
theorem Number.ceilDiv_natCast (extent : Nat) {tile : Nat} (positive : 0 < tile) :
    ceilDiv extent tile = ((extent ⌈/⌉ tile : Nat) : Int) := by
  have sum : (extent : Int) + tile - 1 = ((extent + tile - 1 : Nat) : Int) := by omega
  rw [ceilDiv, sum, Nat.ceilDiv_eq_add_pred_div, Int.tdiv_eq_ediv_of_nonneg (by omega)]
  exact (Int.natCast_div _ _).symm

/-- Tiles cover the extent. -/
theorem Number.le_ceilDiv_mul (extent : Nat) {tile : Nat} (positive : 0 < tile) :
    extent ≤ (extent ⌈/⌉ tile) * tile := by
  rw [Nat.mul_comm]
  exact (ceilDiv_le_iff_le_mul positive).mp le_rfl

/-- Fewer tiles do not cover it. -/
theorem Number.mul_lt_of_lt_ceilDiv {extent tile count : Nat} (positive : 0 < tile)
    (few : count < extent ⌈/⌉ tile) : count * tile < extent := by
  by_contra covered
  rw [Nat.not_lt, Nat.mul_comm] at covered
  exact absurd ((ceilDiv_le_iff_le_mul positive).mpr covered) (Nat.not_le.mpr few)

theorem Number.ceilDiv_positive {extent tile : Nat} (some : 0 < extent) (positive : 0 < tile) :
    0 < extent ⌈/⌉ tile := by
  by_contra none
  have covered := le_ceilDiv_mul extent positive
  rw [Nat.eq_zero_of_not_pos none, Nat.zero_mul] at covered
  omega

/-- Tiles of more than four elements, in groups of eight at most, are counted in a word. -/
theorem Number.ceilDiv_mul_lt {extent tile group : Nat} (word : extent < 2 ^ 31) (wide : 4 < tile)
    (grouped : group ≤ 8) : (extent ⌈/⌉ tile) * group < 2 ^ 32 := by
  have few : extent ⌈/⌉ tile ≤ 2 ^ 29 - 1 := by
    refine (ceilDiv_le_iff_le_mul (by omega)).mpr (le_trans ?_ (Nat.mul_le_mul_right _ wide))
    omega
  have counted := Nat.mul_le_mul few grouped
  omega

/-- There is at most one tile for each element. -/
theorem Number.ceilDiv_le_extent (extent : Nat) {tile : Nat} (positive : 0 < tile) :
    extent ⌈/⌉ tile ≤ extent :=
  (ceilDiv_le_iff_le_mul positive).mpr (Nat.le_mul_of_pos_left extent positive)

theorem Operation.toNat_lowWord_natCast (number : Nat) :
    (lowWord number).toNat = number % 2 ^ 32 := by
  have cut : ((number : Int) % UInt32.size).toNat = number % 2 ^ 32 := by
    rw [← Int.natCast_mod]
    rfl
  rw [lowWord, cut, UInt32.toNat_ofNat', Nat.mod_mod]

theorem Operation.tilesCovering_positive (extent : Int) {tile : UInt32}
    (positive : 0 < tile.toNat) : tilesCovering extent tile = .ok (ceilDiv extent tile.toNat) := by
  refine tilesCovering_ok.mpr ⟨?_, rfl⟩
  rintro rfl
  exact Nat.lt_irrefl 0 positive

/-- The number of tiles that cover a word fits a word. -/
theorem Operation.toNat_lowWord_ceilDiv {extent : Int32} {tile : Nat} (positive : 0 < extent.toInt)
    (some : 0 < tile) :
    (lowWord (ceilDiv extent.toInt tile)).toNat = extent.toInt.toNat ⌈/⌉ tile := by
  have word := extent.toInt_lt
  have few := ceilDiv_le_extent extent.toInt.toNat some
  rw [← Int.toNat_of_nonneg positive.le, ceilDiv_natCast _ some, toNat_lowWord_natCast,
    Int.toNat_natCast]
  exact Nat.mod_eq_of_lt (by omega)

/-- A positive word is covered by a number of tiles that does not vanish. -/
theorem Operation.lowWord_ceilDiv_ne_zero {extent : Int32} {tile : UInt32}
    (positive : 0 < extent.toInt) (wide : tile ≠ 0) :
    lowWord (ceilDiv extent.toInt tile.toNat) ≠ 0 := by
  have some := toNat_positive wide
  have covered := ceilDiv_positive (Int.pos_iff_toNat_pos.mp positive) some
  intro none
  rw [← toNat_lowWord_ceilDiv positive some, none, UInt32.toNat_zero] at covered
  omega

end DeviceKernels
