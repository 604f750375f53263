import DeviceKernels.Proofs.Number.ExactValues

/-
Rounding to a binary format keeps what the format holds: a significand of the format's width at
one of its exponents is written as a pattern that denotes the same number.
-/

namespace DeviceKernels.Number

theorem divideToEven_mul (quotient : Nat) {divisor : Nat} (positive : 0 < divisor) :
    divideToEven (quotient * divisor) divisor = quotient := by
  have whole : quotient * divisor / divisor = quotient := Nat.mul_div_cancel _ positive
  have rest : quotient * divisor % divisor = 0 := Nat.mul_mod_left ..
  have tie : ¬ 0 = divisor := positive.ne
  simp [divideToEven, whole, rest, tie]

theorem log2_mul_two_pow {number : Nat} (positive : 0 < number) (places : Nat) :
    (number * 2 ^ places).log2 = number.log2 + places := by
  obtain ⟨least, most⟩ := (Nat.log2_eq_iff positive.ne').1 rfl
  refine (Nat.log2_eq_iff (by positivity)).2 ⟨?_, ?_⟩
  · rw [pow_add]
    exact Nat.mul_le_mul_right _ least
  · rw [add_right_comm, pow_add]
    exact Nat.mul_lt_mul_of_pos_right most (by positivity)

/-- A power of two moves the logarithm. -/
theorem floorLog_scaled {significand : Nat} (positive : 0 < significand) (exponent : ℤ) :
    floorLog (significand * 2 ^ exponent.toNat) (2 ^ (-exponent).toNat) =
      significand.log2 + exponent := by
  have guess : ((significand.log2 + exponent.toNat : Nat) : ℤ) - (-exponent).toNat =
      significand.log2 + exponent := by omega
  have enough : 2 ^ (-exponent).toNat * 2 ^ (significand.log2 + exponent).toNat ≤
      significand * 2 ^ exponent.toNat * 2 ^ (-(significand.log2 + exponent)).toNat := by
    have places : (-exponent).toNat + (significand.log2 + exponent).toNat =
        significand.log2 + (exponent.toNat + (-(significand.log2 + exponent)).toNat) := by omega
    rw [mul_assoc, ← pow_add, ← pow_add, places, pow_add]
    exact Nat.mul_le_mul_right _ (Nat.log2_self_le positive.ne')
  simp only [floorLog, Nat.pow_eq, log2_mul_two_pow positive, Nat.log2_two_pow, guess]
  rw [if_neg (not_lt.2 enough)]

namespace BinaryFormat

variable {format : BinaryFormat} {significand : Nat} {exponent : ℤ}

/-- The exponent of the last place of the largest numbers. -/
def greatestExponent (format : BinaryFormat) : ℤ :=
  format.leastExponent + (2 ^ format.exponentBits : Nat) - 3

/-- The finite numbers of a format, up to their sign. -/
structure Holds (format : BinaryFormat) (significand : Nat) (exponent : ℤ) : Prop where
  narrow : significand < 2 ^ (format.fractionBits + 1)
  above : format.leastExponent ≤ exponent
  below : exponent ≤ format.greatestExponent

/-- A sign, an exponent field and a fraction field can be told apart. -/
theorem fields_eq {fractions exponents rest : Nat} (sign : Nat) (positive : 0 < fractions)
    (small : rest < fractions * exponents) :
    (sign * (fractions * exponents) + rest) % fractions = rest % fractions ∧
      (sign * (fractions * exponents) + rest) / fractions % exponents = rest / fractions ∧
      (sign * (fractions * exponents) + rest) / (fractions * exponents) = sign := by
  have field : rest / fractions < exponents := Nat.div_lt_of_lt_mul small
  have shifted : sign * (fractions * exponents) = fractions * (exponents * sign) := by
    rw [mul_comm, mul_assoc]
  refine ⟨?_, ?_, ?_⟩
  · rw [shifted, Nat.mul_add_mod]
  · rw [shifted, Nat.mul_add_div positive, Nat.mul_add_mod, Nat.mod_eq_of_lt field]
  · rw [mul_comm, Nat.mul_add_div (by omega), Nat.div_eq_of_lt small, add_zero]

theorem signPattern_eq (format : BinaryFormat) (negative : Bool) :
    format.signPattern negative =
      negative.toNat * (2 ^ format.fractionBits * 2 ^ format.exponentBits) := by
  cases negative <;> simp [signPattern, pow_add]

/-- The pattern of a finite number denotes it. Only at the least exponent may the significand lack
its first bit. -/
theorem unpack_pattern (negative : Bool) {places : Nat}
    (narrow : significand < 2 ^ (format.fractionBits + 1))
    (normal : places = 0 ∨ 2 ^ format.fractionBits ≤ significand)
    (few : places + 2 < 2 ^ format.exponentBits) :
    format.unpack (format.signPattern negative +
        (places * 2 ^ format.fractionBits + significand)) =
      .finite negative significand (format.leastExponent + places) := by
  have fractions : 0 < 2 ^ format.fractionBits := by positivity
  have small : places * 2 ^ format.fractionBits + significand <
      2 ^ format.fractionBits * 2 ^ format.exponentBits := by
    have room := Nat.mul_le_mul_left (2 ^ format.fractionBits) few.le
    rw [pow_succ] at narrow
    rw [mul_add, mul_comm _ places] at room
    omega
  obtain ⟨fraction, field, sign⟩ := fields_eq negative.toNat fractions small
  rw [Nat.mul_add_mod'] at fraction
  rw [mul_comm places, Nat.mul_add_div fractions, mul_comm _ places] at field
  have signBit : (negative.toNat % 2 == 1) = negative := by cases negative <;> rfl
  simp only [unpack, Nat.pow_eq, signPattern_eq, pow_add, fraction, field, sign, beq_iff_eq,
    signBit]
  rcases Nat.lt_or_ge significand (2 ^ format.fractionBits) with subnormal | leading
  · obtain rfl : places = 0 := normal.resolve_right (not_le.2 subnormal)
    have least : ¬ 0 = 2 ^ format.exponentBits - 1 := by omega
    simp [Nat.div_eq_of_lt subnormal, Nat.mod_eq_of_lt subnormal, least]
  · have quotient : significand / 2 ^ format.fractionBits = 1 :=
      Nat.div_eq_of_lt_le (by omega) (by rwa [pow_succ, mul_comm] at narrow)
    have rest : 2 ^ format.fractionBits + significand % 2 ^ format.fractionBits = significand := by
      have parts := Nat.div_add_mod significand (2 ^ format.fractionBits)
      rwa [quotient, mul_one] at parts
    have last : format.leastExponent + ((places + 1 : Nat) : ℤ) - 1 =
        format.leastExponent + places := by omega
    rw [quotient, if_neg (by omega), if_neg (by omega), rest, last]

theorem unpack_holds {pattern : Nat} {negative : Bool} (wide : 2 ≤ format.exponentBits)
    (finite : format.unpack pattern = .finite negative significand exponent) :
    format.Holds significand exponent := by
  have fraction : pattern % 2 ^ format.fractionBits < 2 ^ format.fractionBits :=
    Nat.mod_lt _ (by positivity)
  have field : pattern / 2 ^ format.fractionBits % 2 ^ format.exponentBits <
      2 ^ format.exponentBits := Nat.mod_lt _ (by positivity)
  have many : 2 ^ 2 ≤ 2 ^ format.exponentBits := Nat.pow_le_pow_right two_pos wide
  simp only [unpack, Nat.pow_eq, beq_iff_eq] at finite
  split at finite
  case isTrue => split at finite <;> cases finite
  case isFalse notLast =>
    split at finite
    case isTrue =>
      cases finite
      refine ⟨fraction.trans_le (Nat.pow_le_pow_right two_pos (Nat.le_succ _)), le_rfl, ?_⟩
      rw [greatestExponent]
      omega
    case isFalse notLeast =>
      cases finite
      refine ⟨?_, by omega, ?_⟩
      · rw [pow_succ]
        omega
      · rw [greatestExponent]
        omega

/-- The exponent that a number is written with. -/
def writtenExponent (format : BinaryFormat) (significand : Nat) (exponent : ℤ) : ℤ :=
  max format.leastExponent (significand.log2 + exponent - format.fractionBits)

/-- The places by which a significand is moved for it. -/
def writtenPlaces (format : BinaryFormat) (significand : Nat) (exponent : ℤ) : Nat :=
  (exponent - format.writtenExponent significand exponent).toNat

/-- The fields of a pattern that denotes a number of the format. -/
structure Writes (format : BinaryFormat) (significand : Nat) (exponent : ℤ)
    (places written : Nat) : Prop where
  narrow : written < 2 ^ (format.fractionBits + 1)
  normal : places = 0 ∨ 2 ^ format.fractionBits ≤ written
  few : places + 2 < 2 ^ format.exponentBits
  same : (written : ℚ) * 2 ^ (format.leastExponent + places) = significand * 2 ^ exponent

theorem Holds.log2_le (holds : format.Holds significand exponent) (positive : 0 < significand) :
    significand.log2 ≤ format.fractionBits :=
  Nat.le_of_lt_succ ((Nat.log2_lt positive.ne').2 holds.narrow)

theorem Holds.writtenExponent_le (holds : format.Holds significand exponent)
    (positive : 0 < significand) : format.writtenExponent significand exponent ≤ exponent := by
  have log := holds.log2_le positive
  exact max_le holds.above (by omega)

/-- Moved to the exponent that it is written with, a number of the format fills its fields. -/
theorem Holds.writes (holds : format.Holds significand exponent) (positive : 0 < significand) :
    format.Writes significand exponent
      (format.writtenExponent significand exponent - format.leastExponent).toNat
      (significand * 2 ^ format.writtenPlaces significand exponent) := by
  obtain ⟨least, most⟩ := (Nat.log2_eq_iff positive.ne').1 rfl
  have log := holds.log2_le positive
  have below := holds.below
  have moved := holds.writtenExponent_le positive
  have inRange : format.leastExponent ≤ format.writtenExponent significand exponent :=
    le_max_left ..
  have enough : significand.log2 + exponent - format.fractionBits ≤
      format.writtenExponent significand exponent := le_max_right ..
  refine ⟨?_, ?_, ?_, ?_⟩
  · calc significand * 2 ^ format.writtenPlaces significand exponent
        < 2 ^ (significand.log2 + 1) * 2 ^ format.writtenPlaces significand exponent :=
          Nat.mul_lt_mul_of_pos_right most (by positivity)
      _ = 2 ^ (significand.log2 + 1 + format.writtenPlaces significand exponent) :=
          (pow_add ..).symm
      _ ≤ 2 ^ (format.fractionBits + 1) :=
          Nat.pow_le_pow_right two_pos (by rw [writtenPlaces]; omega)
  -- The first bit of the significand may stay empty only where the exponent cannot be lowered.
  · rcases max_choice format.leastExponent
        (significand.log2 + exponent - format.fractionBits) with lowest | aligned
    · left
      rw [writtenExponent, lowest, sub_self, Int.toNat_zero]
    · right
      have places : significand.log2 + format.writtenPlaces significand exponent =
          format.fractionBits := by
        rw [writtenPlaces, writtenExponent, aligned]
        omega
      rw [← places, pow_add]
      exact Nat.mul_le_mul_right _ least
  · rw [greatestExponent] at below
    omega
  · rw [Int.toNat_of_nonneg (sub_nonneg.2 inRange), add_sub_cancel, Nat.cast_mul, Nat.cast_pow,
      Nat.cast_ofNat, mul_assoc, ← zpow_natCast, ← zpow_add₀ two_ne_zero, writtenPlaces,
      Int.toNat_of_nonneg (sub_nonneg.2 moved), sub_add_cancel]

/-- Rounding a number of the format fills these fields. -/
theorem Holds.roundRatio_eq (holds : format.Holds significand exponent)
    (positive : 0 < significand) :
    format.roundRatio (significand * 2 ^ exponent.toNat) (2 ^ (-exponent).toNat) =
      (format.writtenExponent significand exponent - format.leastExponent).toNat *
          2 ^ format.fractionBits +
        significand * 2 ^ format.writtenPlaces significand exponent := by
  have writes := holds.writes positive
  have moved := holds.writtenExponent_le positive
  have nonzero : significand * 2 ^ exponent.toNat ≠ 0 := by positivity
  have exact : significand * 2 ^ exponent.toNat *
        2 ^ (-format.writtenExponent significand exponent).toNat =
      significand * 2 ^ format.writtenPlaces significand exponent *
        (2 ^ (-exponent).toNat * 2 ^ (format.writtenExponent significand exponent).toNat) := by
    rw [mul_assoc, mul_assoc, ← pow_add, ← pow_add, ← pow_add, writtenPlaces]
    congr 2
    omega
  have finite : (format.writtenExponent significand exponent - format.leastExponent).toNat *
        2 ^ format.fractionBits + significand * 2 ^ format.writtenPlaces significand exponent ≤
      format.infinityPattern := by
    have room := Nat.mul_le_mul_right (2 ^ format.fractionBits) (Nat.le_sub_one_of_lt writes.few)
    have narrow := writes.narrow
    rw [add_mul] at room
    rw [pow_succ] at narrow
    rw [infinityPattern, Nat.pow_eq, Nat.pow_eq]
    omega
  simp only [roundRatio, Nat.pow_eq, beq_iff_eq, if_neg nonzero, floorLog_scaled positive]
  rw [← writtenExponent, exact, divideToEven_mul _ (by positivity), min_eq_right finite]

/-- What a format holds is kept by rounding to it. -/
theorem Holds.unpack_round (holds : format.Holds significand exponent) (negative : Bool) :
    (format.unpack (format.round (.finite negative significand exponent))).rational? =
      (FloatValue.finite negative significand exponent).rational? := by
  simp only [round, Nat.pow_eq]
  rcases Nat.eq_zero_or_pos significand with rfl | positive
  -- Zero has no logarithm, and is written with empty fields.
  · have few : 0 + 2 < 2 ^ format.exponentBits := by
      have order := holds.above.trans holds.below
      rw [greatestExponent] at order
      omega
    have zero : format.unpack (format.signPattern negative + (0 * 2 ^ format.fractionBits + 0)) =
        .finite negative 0 (format.leastExponent + (0 : Nat)) :=
      unpack_pattern negative (by positivity) (.inl rfl) few
    rw [zero_mul, add_zero] at zero
    simp only [roundRatio, zero_mul, beq_self_eq_true, if_true, zero]
    simp [FloatValue.rational?]
  · have writes := holds.writes positive
    rw [holds.roundRatio_eq positive,
      unpack_pattern negative writes.narrow writes.normal writes.few,
      FloatValue.rational?, writes.same, FloatValue.rational?]

/-- The nearest integer to a number of the format is a number of the format. -/
theorem Holds.roundAway (holds : format.Holds significand exponent)
    (least : format.leastExponent ≤ 0) (greatest : 0 ≤ format.greatestExponent)
    (negative : Bool) : ∃ significand' exponent',
      (FloatValue.finite negative significand exponent).roundAway =
        .finite negative significand' exponent' ∧ format.Holds significand' exponent' := by
  rw [FloatValue.roundAway]
  split
  case isTrue => exact ⟨significand, exponent, rfl, holds⟩
  case isFalse =>
    refine ⟨_, 0, rfl, ?_, least, greatest⟩
    have positive : 0 < Nat.pow 2 ((-exponent).toNat - 1) := Nat.pow_pos two_pos
    generalize Nat.pow 2 ((-exponent).toNat - 1) = half at positive ⊢
    have narrow : significand < half * 2 ^ (format.fractionBits + 1) :=
      holds.narrow.trans_le (Nat.le_mul_of_pos_left _ positive)
    have halves : half ≤ half * 2 ^ (format.fractionBits + 1) :=
      Nat.le_mul_of_pos_right _ (by positivity)
    refine Nat.div_lt_of_lt_mul ?_
    rw [mul_assoc, two_mul]
    omega

/-- The pattern of a number has no bit above the sign. -/
theorem round_finite_lt (format : BinaryFormat) (negative : Bool) (significand : Nat)
    (exponent : ℤ) : format.round (.finite negative significand exponent) <
      2 ^ (format.fractionBits + format.exponentBits + 1) := by
  have finite : ∀ dividend divisor,
      format.roundRatio dividend divisor ≤ format.infinityPattern := by
    intro dividend divisor
    rw [roundRatio]
    split
    · exact Nat.zero_le _
    · exact Nat.min_le_left ..
  have infinity : format.infinityPattern < 2 ^ (format.fractionBits + format.exponentBits) := by
    have fractions : 0 < 2 ^ format.fractionBits := by positivity
    have exponents : 0 < 2 ^ format.exponentBits := by positivity
    rw [infinityPattern, Nat.pow_eq, Nat.pow_eq, pow_add, mul_comm (2 ^ format.fractionBits)]
    exact Nat.mul_lt_mul_of_pos_right (by omega) fractions
  have sign : format.signPattern negative ≤ 2 ^ (format.fractionBits + format.exponentBits) := by
    cases negative <;> simp [signPattern]
  rw [round, pow_succ]
  have rounded := finite (significand * Nat.pow 2 exponent.toNat) (Nat.pow 2 (-exponent).toNat)
  omega

end BinaryFormat

namespace Binary32

/-- The exact value of a finite number. -/
def rational? (number : Binary32) : Option ℚ := number.value.rational?

theorem rational?_ofValue {significand : Nat} {exponent : ℤ}
    (holds : BinaryFormat.single.Holds significand exponent) (negative : Bool) :
    (ofValue (.finite negative significand exponent)).rational? =
      some (signed negative (significand * 2 ^ exponent)) := by
  have fits : BinaryFormat.single.round (.finite negative significand exponent) < 2 ^ 32 :=
    BinaryFormat.single.round_finite_lt negative significand exponent
  rw [rational?, value, ofValue, UInt32.toNat_ofNat_of_lt' fits, holds.unpack_round,
    FloatValue.rational?]

/-- An integer of the significand's width is held. -/
theorem rational?_ofInt {number : ℤ} (narrow : number.natAbs < 2 ^ 24) :
    (ofInt number).rational? = some (number : ℚ) := by
  have holds : BinaryFormat.single.Holds number.natAbs 0 := ⟨narrow, by decide, by decide⟩
  rw [ofInt, FloatValue.ofScaled, rational?_ofValue holds, zpow_zero, mul_one]
  by_cases negative : number < 0
  · simp [signed, negative, negative.ne, Nat.cast_natAbs, abs_of_neg]
  · simp [signed, negative, Nat.cast_natAbs, abs_of_nonneg (not_lt.1 negative)]

/-- A single with a fraction is small. -/
theorem whole_or_small {number : Binary32} {exact : ℚ} (finite : number.rational? = some exact) :
    (∃ whole : ℤ, exact = whole) ∨ exact < 2 ^ 24 := by
  obtain ⟨negative, significand, exponent, unpacked, rfl⟩ := FloatValue.rational?_eq_some finite
  have holds : BinaryFormat.single.Holds significand exponent :=
    BinaryFormat.unpack_holds (by decide) unpacked
  rcases le_or_gt 0 exponent with whole | fractional
  · left
    exact ⟨_, by rw [FloatValue.signed_eq_scaled negative significand whole, zpow_zero, mul_one]⟩
  · right
    have unit : (2 : ℚ) ^ exponent ≤ 1 := zpow_le_one_of_nonpos₀ one_le_two fractional.le
    have narrow : (significand : ℚ) < 2 ^ 24 := by exact_mod_cast holds.narrow
    calc signed negative (significand * 2 ^ exponent) ≤ significand * 2 ^ exponent := by
          cases negative <;> simp [signed]
          positivity
      _ ≤ significand := mul_le_of_le_one_right (by positivity) unit
      _ < 2 ^ 24 := narrow

theorem rational?_roundAway {number : Binary32} {exact : ℚ}
    (finite : number.rational? = some exact) :
    number.roundAway.rational? = some (roundHalfAway exact : ℚ) := by
  obtain ⟨negative, significand, exponent, unpacked, -⟩ := FloatValue.rational?_eq_some finite
  have rounded := FloatValue.rational?_roundAway finite
  have holds : BinaryFormat.single.Holds significand exponent :=
    BinaryFormat.unpack_holds (by decide) unpacked
  obtain ⟨significand', exponent', same, holds'⟩ :=
    holds.roundAway (by decide) (by decide) negative
  rw [unpacked, same] at rounded
  rw [roundAway, unpacked, same, rational?_ofValue holds']
  exact rounded

theorem rational?_clamp {number lower upper : Binary32} {exact least greatest : ℚ}
    (finite : number.rational? = some exact) (finite_lower : lower.rational? = some least)
    (finite_upper : upper.rational? = some greatest) (order : least ≤ greatest) :
    (number.clamp lower upper).rational? = some (max least (min greatest exact)) := by
  simp only [clamp, less, FloatValue.less_iff finite finite_lower,
    FloatValue.less_iff finite_upper finite]
  split
  case isTrue below =>
    rw [finite_lower, min_eq_right (below.le.trans order), max_eq_left below.le]
  case isFalse notBelow =>
    split
    case isTrue above => rw [finite_upper, min_eq_left above.le, max_eq_right order]
    case isFalse notAbove =>
      rw [finite, min_eq_right (not_lt.1 notAbove), max_eq_right (not_lt.1 notBelow)]

end Binary32

end DeviceKernels.Number
