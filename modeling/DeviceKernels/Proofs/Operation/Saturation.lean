import DeviceKernels.Descriptor.Epilogue
import DeviceKernels.Proofs.Number.Rounding

/-
The saturation of results. A result for an integer type is rounded, and every result is cut to the
limits of its type. The limits are singles, and the greatest 32-bit integer is none: it is rounded
up to `2 ^ 31`.
-/

namespace DeviceKernels

open Number

namespace ElementType

variable {element : ElementType} {least greatest : ℤ} {exact : ℚ}

/-- The least and the greatest number of a type to which results are cut. -/
def limits? : ElementType → Option (ℤ × ℤ)
  | s8 => some (-128, 127)
  | u8 => some (0, 255)
  | s32 => some (-2 ^ 31, 2 ^ 31 - 1)
  | f16 => some (-65504, 65504)
  | _ => none

/-- Results are cut to the integer types and to half precision. -/
theorem limits?_isSome_iff : element.limits?.isSome ↔ element.isInteger ∨ element = .f16 := by
  cases element <;> decide

theorem limits?_ordered (limited : element.limits? = some (least, greatest)) :
    least ≤ greatest := by
  cases element <;> cases limited <;> decide

/-- The number that stands for a result within the limits. -/
def nearest (element : ElementType) (exact : ℚ) : ℚ :=
  if element.isInteger then roundHalfAway exact else exact

theorem nearest_monotone (element : ElementType) : Monotone element.nearest := by
  intro first second le
  unfold nearest
  split
  · exact Int.cast_le.2 (roundHalfAway_le le)
  · exact le

/-- The greatest number of a type as a single. -/
def singleGreatest (element : ElementType) (greatest : ℤ) : ℤ :=
  if element = .s32 then greatest + 1 else greatest

theorem le_singleGreatest (element : ElementType) (greatest : ℤ) :
    greatest ≤ element.singleGreatest greatest := by
  unfold singleGreatest
  split <;> omega

/-- A result after it is cut. -/
def cut (element : ElementType) (least greatest : ℤ) (exact : ℚ) : ℚ :=
  max least (min (element.singleGreatest greatest) (element.nearest exact))

theorem cut_monotone (element : ElementType) (least greatest : ℤ) :
    Monotone (element.cut least greatest) := fun _ _ le =>
  max_le_max_left _ (min_le_min_left _ (element.nearest_monotone le))

/-- What is within the limits is kept. -/
theorem cut_of_within (above : least ≤ element.nearest exact)
    (below : element.nearest exact ≤ greatest) :
    element.cut least greatest exact = element.nearest exact := by
  have top : element.nearest exact ≤ element.singleGreatest greatest :=
    below.trans (Int.cast_le.2 (element.le_singleGreatest greatest))
  rw [cut, min_eq_right top, max_eq_right above]

theorem cut_whole (integer : element.isInteger) :
    ∃ number : ℤ, element.cut least greatest exact = number := by
  refine ⟨max least (min (element.singleGreatest greatest) (roundHalfAway exact)), ?_⟩
  rw [cut, nearest, if_pos integer, Int.cast_max, Int.cast_min]

/-- A cut result is above the range exactly if it is cut to 32-bit integers and rounds to the
successor of the greatest one or more. -/
theorem cut_le_iff (limited : element.limits? = some (least, greatest)) :
    element.cut least greatest exact ≤ greatest ↔
      ¬ (element = .s32 ∧ 2 ^ 31 ≤ roundHalfAway exact) := by
  have ordered : (least : ℚ) ≤ greatest := Int.cast_le.2 (limits?_ordered limited)
  by_cases wide : element = .s32
  · subst wide
    cases limited
    -- The single cannot keep a result in the range, so the rounded value has to.
    have successor : (2 : ℤ) ^ 31 - 1 < s32.singleGreatest (2 ^ 31 - 1) := by decide
    simp only [cut, nearest, max_le_iff, ordered, true_and, min_le_iff, Int.cast_le,
      not_le.2 successor, false_or, isInteger, isFloat, Bool.not_false, if_true, not_le]
    exact Int.le_sub_one_iff
  · have top : element.singleGreatest greatest = greatest := if_neg wide
    simp only [cut, top, wide, false_and, not_false_eq_true, iff_true]
    exact max_le ordered (min_le_left _ _)

/-- From that successor on all results are cut to it. -/
theorem cut_overflow (above : 2 ^ 31 ≤ roundHalfAway exact) :
    s32.cut (-2 ^ 31) (2 ^ 31 - 1) exact = 2 ^ 31 := by
  have top : s32.singleGreatest (2 ^ 31 - 1) = 2 ^ 31 := by decide
  have rounded : s32.nearest exact = roundHalfAway exact := rfl
  rw [cut, top, rounded, ← Int.cast_min, min_eq_left above]
  norm_num

end ElementType

namespace Number.Binary32

variable {value : Binary32} {exact : ℚ}

theorem rational?_least32 : (ofInt Int32.minValue.toInt).rational? = some (-2 ^ 31 : ℤ) := by
  decide +kernel

/-- The greatest 32-bit integer has too many digits and is rounded up. -/
theorem rational?_greatest32 : (ofInt Int32.maxValue.toInt).rational? =
    some (ElementType.s32.singleGreatest (2 ^ 31 - 1) : ℤ) := by
  decide +kernel

/-- Singles below the successor of the greatest 32-bit integer are rounded below it. -/
theorem le_roundHalfAway_iff (finite : value.rational? = some exact) :
    2 ^ 31 ≤ roundHalfAway exact ↔ 2 ^ 31 ≤ exact := by
  rcases whole_or_small finite with ⟨number, rfl⟩ | small
  · rw [roundHalfAway_intCast]
    exact_mod_cast Iff.rfl
  · have rounded : roundHalfAway exact ≤ 2 ^ 24 := by
      have limit : roundHalfAway (2 ^ 24 : ℤ) = 2 ^ 24 := roundHalfAway_intCast _
      rw [← limit, Int.cast_pow, Int.cast_ofNat]
      exact roundHalfAway_le small.le
    constructor
    · intro above
      omega
    · intro above
      linarith

end Number.Binary32

namespace Epilogue

variable {element : ElementType} {least greatest : ℤ} {value : Binary32} {exact : ℚ}

/-- Saturation is the cut of the exact value. -/
theorem rational?_saturate (limited : element.limits? = some (least, greatest))
    (finite : value.rational? = some exact) :
    (saturate element value).rational? = some (element.cut least greatest exact) := by
  have order : (least : ℚ) ≤ element.singleGreatest greatest := Int.cast_le.2
    ((ElementType.limits?_ordered limited).trans (element.le_singleGreatest greatest))
  have rounded := Binary32.rational?_roundAway finite
  cases element <;> cases limited
  case s8 =>
    exact Binary32.rational?_clamp rounded (Binary32.rational?_ofInt (by decide))
      (Binary32.rational?_ofInt (by decide)) order
  case u8 =>
    have zero : Binary32.zero = .ofInt 0 := by decide
    rw [saturate, zero]
    exact Binary32.rational?_clamp rounded (Binary32.rational?_ofInt (by decide))
      (Binary32.rational?_ofInt (by decide)) order
  case s32 =>
    exact Binary32.rational?_clamp rounded Binary32.rational?_least32
      Binary32.rational?_greatest32 order
  case f16 =>
    exact Binary32.rational?_clamp finite (Binary32.rational?_ofInt (by decide))
      (Binary32.rational?_ofInt (by decide)) order

/-- What a result for a type is to the value that it is cut from. -/
structure Saturates (element : ElementType) (least greatest : ℤ) (exact result : ℚ) : Prop where
  /-- The result is in the range of the type, but for one case. -/
  inRange : least ≤ result ∧ result ≤ greatest ↔ ¬ (element = .s32 ∧ 2 ^ 31 ≤ exact)
  overflow : element = .s32 → 2 ^ 31 ≤ exact → result = 2 ^ 31
  whole : element.isInteger → ∃ number : ℤ, result = number
  kept : least ≤ element.nearest exact → element.nearest exact ≤ greatest →
    result = element.nearest exact

/-- For every integer type and for half precision saturation is a monotone function of the exact
value. It keeps what rounds into the range of the type and gives integers for the integer types. Its
results are in the range except for the values from `2 ^ 31` on that are cut to 32-bit integers,
which all become `2 ^ 31`. -/
theorem saturate_inRange_iff (element : ElementType)
    (limited : element.isInteger ∨ element = .f16) :
    ∃ least greatest, element.limits? = some (least, greatest) ∧
      ∃ cut : ℚ → ℚ, Monotone cut ∧
        ∀ (value : Binary32) (exact : ℚ), value.rational? = some exact →
          (saturate element value).rational? = some (cut exact) ∧
            Saturates element least greatest exact (cut exact) := by
  obtain ⟨⟨least, greatest⟩, limits⟩ :=
    Option.isSome_iff_exists.1 (ElementType.limits?_isSome_iff.2 limited)
  refine ⟨least, greatest, limits, element.cut least greatest,
    element.cut_monotone least greatest, ?_⟩
  intro value exact finite
  have edge := Binary32.le_roundHalfAway_iff finite
  refine ⟨rational?_saturate limits finite, ?_, ?_, ElementType.cut_whole,
    ElementType.cut_of_within⟩
  · rw [ElementType.cut_le_iff limits, edge]
    exact and_iff_right (le_max_left _ _)
  · rintro rfl above
    cases limits
    exact ElementType.cut_overflow (edge.2 above)

/-- Two and a half is cut to three. -/
theorem saturate_inRange_iff_tie :
    (ElementType.s8.isInteger ∨ ElementType.s8 = .f16) ∧
      (Binary32.mk 0x40200000).rational? = some (5 / 2) ∧
      (saturate .s8 ⟨0x40200000⟩).rational? = some 3 := by
  have finite : (Binary32.mk 0x40200000).rational? = some (5 / 2) := by decide +kernel
  have rounded : ElementType.s8.nearest (5 / 2) = 3 := by decide +kernel
  obtain ⟨least, greatest, limits, cut, -, saturates⟩ := saturate_inRange_iff .s8 (.inl rfl)
  obtain ⟨result, facts⟩ := saturates _ _ finite
  cases limits
  rw [facts.kept (by rw [rounded]; norm_num) (by rw [rounded]; norm_num), rounded] at result
  exact ⟨.inl rfl, finite, result⟩

/-- Three thousand million is cut to a number above the 32-bit integers. -/
theorem clamped_word_overflows :
    let value := Binary32.ofInt 3000000000
    let clamped := (linearCombination .s32 4 .s32 .f32).clamped
    value.rational? = some 3000000000 ∧
      (saturate .s32 value).rational? = some 2147483648 ∧
      (clamped.apply .one .zero value .zero).rational? = some 2147483648 ∧
      ElementType.s32.limits? = some (-2147483648, 2147483647) ∧
      (2147483647 : ℤ) < (2147483648 : ℚ) := by
  decide +kernel

end Epilogue

end DeviceKernels
