import DeviceKernels.Number.Float
import Mathlib.Algebra.Order.Field.Power
import Mathlib.Algebra.Order.Round
import Mathlib.Data.Rat.Floor
import Mathlib.Tactic.Linarith

/-
Finite numbers as rationals. The order of values is the order of rationals, and rounding to an
integer takes the nearest one, with a tie going away from zero.
-/

namespace DeviceKernels.Number

/-- A magnitude with a sign. -/
def signed (negative : Bool) (magnitude : ℚ) : ℚ := if negative then -magnitude else magnitude

/-- The nearest integer; a tie goes away from zero. -/
def roundHalfAway (number : ℚ) : ℤ := if 0 ≤ number then round number else -round (-number)

theorem round_le_round {first second : ℚ} (le : first ≤ second) : round first ≤ round second := by
  rw [round_eq, round_eq]
  exact Int.floor_le_floor (add_le_add_left le _)

theorem round_nonneg {number : ℚ} (nonneg : 0 ≤ number) : 0 ≤ round number := by
  rw [← round_zero (α := ℚ)]
  exact round_le_round nonneg

theorem roundHalfAway_intCast (number : ℤ) : roundHalfAway number = number := by
  rw [roundHalfAway]
  split
  · exact round_intCast number
  · rw [← Int.cast_neg, round_intCast, neg_neg]

/-- The sign does not matter for the integer that is taken. -/
theorem roundHalfAway_signed (negative : Bool) {magnitude : ℚ} (nonneg : 0 ≤ magnitude) :
    (roundHalfAway (signed negative magnitude) : ℚ) = signed negative (round magnitude) := by
  cases negative with
  | false => simp [signed, roundHalfAway, nonneg]
  | true =>
      rcases nonneg.eq_or_lt with rfl | positive
      · simp [signed, roundHalfAway]
      · simp [signed, roundHalfAway, positive]

theorem roundHalfAway_le {first second : ℚ} (le : first ≤ second) :
    roundHalfAway first ≤ roundHalfAway second := by
  rw [roundHalfAway, roundHalfAway]
  split
  case isTrue nonneg =>
    rw [if_pos (nonneg.trans le)]
    exact round_le_round le
  case isFalse negative =>
    have below := round_nonneg (neg_nonneg.2 (not_le.1 negative).le)
    split
    case isTrue nonneg =>
      have above := round_nonneg nonneg
      omega
    case isFalse => exact neg_le_neg (round_le_round (neg_le_neg le))

/-- Half of the divisor is added before a division that rounds down. -/
theorem round_div (dividend : Nat) {half : Nat} (positive : 0 < half) :
    round ((dividend : ℚ) / (2 * half : Nat)) = ((dividend + half) / (2 * half) : Nat) := by
  have sum : (dividend : ℚ) / (2 * half : Nat) + 1 / 2 =
      ((dividend + half : Nat) : ℤ) / (2 * half : Nat) := by
    push_cast
    field_simp
  rw [round_eq, sum, Rat.floor_intCast_div_natCast, Int.natCast_div]

namespace FloatValue

/-- The exact value of a finite number. -/
def rational? : FloatValue → Option ℚ
  | .finite negative significand exponent => some (signed negative (significand * 2 ^ exponent))
  | _ => none

theorem rational?_eq_some {value : FloatValue} {exact : ℚ} (finite : value.rational? = some exact) :
    ∃ negative significand exponent, value = .finite negative significand exponent ∧
      exact = signed negative (significand * 2 ^ exponent) := by
  cases value with
  | invalid => cases finite
  | infinite negative => cases finite
  | finite negative significand exponent =>
      exact ⟨negative, significand, exponent, rfl, (Option.some.inj finite).symm⟩

/-- A value is a multiple of every power of two that is not above its last place. -/
theorem signed_eq_scaled (negative : Bool) (significand : Nat) {exponent lower : ℤ}
    (le : lower ≤ exponent) :
    signed negative (significand * 2 ^ exponent) =
      scaled negative significand (exponent - lower).toNat * 2 ^ lower := by
  have places : (2 : ℚ) ^ exponent = 2 ^ (exponent - lower).toNat * 2 ^ lower := by
    rw [← zpow_natCast, ← zpow_add₀ two_ne_zero, Int.toNat_of_nonneg (sub_nonneg.2 le),
      sub_add_cancel]
  rw [scaled, signed, places]
  cases negative <;> simp [mul_assoc]

theorem less_iff {first second : FloatValue} {exact exact' : ℚ}
    (finite : first.rational? = some exact) (finite' : second.rational? = some exact') :
    first.less second = true ↔ exact < exact' := by
  obtain ⟨negative, significand, exponent, rfl, rfl⟩ := rational?_eq_some finite
  obtain ⟨negative', significand', exponent', rfl, rfl⟩ := rational?_eq_some finite'
  have unit : (0 : ℚ) < 2 ^ min exponent exponent' := zpow_pos two_pos _
  rw [signed_eq_scaled negative significand (min_le_left exponent exponent'),
    signed_eq_scaled negative' significand' (min_le_right exponent exponent'),
    mul_lt_mul_iff_left₀ unit, Int.cast_lt, less, decide_eq_true_iff]

theorem rational?_roundAway {value : FloatValue} {exact : ℚ}
    (finite : value.rational? = some exact) :
    value.roundAway.rational? = some (roundHalfAway exact : ℚ) := by
  obtain ⟨negative, significand, exponent, rfl, rfl⟩ := rational?_eq_some finite
  rw [roundAway]
  split
  case isTrue whole =>
    rw [rational?, signed_eq_scaled negative significand whole, zpow_zero, mul_one,
      roundHalfAway_intCast]
  case isFalse fractional =>
    have half : 0 < Nat.pow 2 ((-exponent).toNat - 1) := Nat.pow_pos two_pos
    have places : (2 : ℚ) ^ exponent = ((2 * Nat.pow 2 ((-exponent).toNat - 1) : Nat) : ℚ)⁻¹ := by
      have last : 2 * Nat.pow 2 ((-exponent).toNat - 1) = 2 ^ (-exponent).toNat := by
        rw [Nat.pow_eq, mul_comm, ← pow_succ]
        congr 1
        omega
      rw [last, Nat.cast_pow, Nat.cast_ofNat, ← zpow_natCast, Int.toNat_of_nonneg (by omega),
        zpow_neg, inv_inv]
    rw [places, ← div_eq_mul_inv, roundHalfAway_signed negative (by positivity),
      round_div significand half, rational?, zpow_zero, mul_one, Int.cast_natCast]

end FloatValue

end DeviceKernels.Number
