import DeviceKernels.Json.Reader
import DeviceKernels.Proofs.Text.Numerals

/-
JSON strings and numbers there and back. A reader stops at the quote that closes a string, and
where the characters of a number end.
-/

namespace DeviceKernels.Json

variable {rest : Rest} {fuel : Nat}

/-- A control character is escaped by its number. -/
theorem readUnit_control {character : Char} (control : character.toNat < 32) :
    readUnit ('0' :: '0' :: Text.hexDigit (character.toNat / 16) ::
      Text.hexDigit (character.toNat % 16) :: rest) = some (character.toNat, rest) := by
  have high := Text.hexValueHexDigit (character.toNat / 16) (by omega)
  have low := Text.hexValueHexDigit (character.toNat % 16) (Nat.mod_lt _ (by decide))
  have zero : Text.hexValue? '0' = some 0 := by decide
  have whole : 16 * (character.toNat / 16) + character.toNat % 16 = character.toNat := by omega
  simp [readUnit, Text.hexNumber?, zero, high, low, whole]

/-- A control character is no half of a pair, so its number is read as the character. -/
theorem readEscape_control {character : Char} (control : character.toNat < 32) :
    readEscape ('u' :: '0' :: '0' :: Text.hexDigit (character.toNat / 16) ::
      Text.hexDigit (character.toNat % 16) :: rest) = some (character, rest) := by
  have unit := @readUnit_control rest character control
  have low : isLowSurrogate character.toNat = false := by
    simp only [isLowSurrogate, Bool.and_eq_false_iff, decide_eq_false_iff_not]
    omega
  have high : isHighSurrogate character.toNat = false := by
    simp only [isHighSurrogate, Bool.and_eq_false_iff, decide_eq_false_iff_not]
    omega
  simp [readEscape, unit, low, high]

/-- An escaped character is read as the character. -/
theorem readQuoted_escape (character : Char) (read : List Char) :
    readQuoted (fuel + 1) read (escape character ++ rest) =
      readQuoted fuel (character :: read) rest := by
  have named {code : Nat} (same : character.toNat = code) : character = Char.ofNat code := by
    rw [← same, Char.ofNat_toNat]
  unfold escape
  split
  case isTrue same => rw [eq_of_beq same]; rfl
  split
  case isTrue same => rw [eq_of_beq same]; rfl
  split
  case isTrue same => rw [eq_of_beq same]; rfl
  split
  case isTrue same => rw [eq_of_beq same]; rfl
  split
  case isTrue same => rw [eq_of_beq same]; rfl
  split
  case isTrue same => rw [named (eq_of_beq same)]; rfl
  split
  case isTrue same => rw [named (eq_of_beq same)]; rfl
  split
  case isTrue control =>
    simp [readQuoted, readEscape_control control]
  case isFalse quote slash _ _ _ _ _ visible =>
    simp only [List.cons_append, List.nil_append, readQuoted, quote, slash, visible]
    rfl

theorem escape_ne_nil (character : Char) : escape character ≠ [] := by
  unfold escape
  repeat' split
  all_goals exact List.cons_ne_nil _ _

/-- Escaped characters up to a quote are read as the characters. -/
theorem readQuoted_escapes (characters read : List Char) (enough : characters.length < fuel) :
    readQuoted fuel read (characters.flatMap escape ++ '"' :: rest) =
      some (String.ofList (read.reverse ++ characters), rest) := by
  induction characters generalizing fuel read with
  | nil =>
      obtain ⟨fuel, rfl⟩ := Nat.exists_eq_add_of_lt enough
      simp [readQuoted]
  | cons character characters ih =>
      obtain ⟨fuel, rfl⟩ := Nat.exists_eq_succ_of_ne_zero (Nat.ne_of_gt (Nat.zero_lt_of_lt enough))
      rw [List.flatMap_cons, List.append_assoc, readQuoted_escape,
        ih (character :: read) (Nat.lt_of_succ_lt_succ enough)]
      simp

/-- A quoted text is read as the text. -/
theorem readQuoted_quote (text : String) :
    ∃ body, (quote text).toList ++ rest = '"' :: body ∧
      readQuoted (body.length + 1) [] body = some (text, rest) := by
  have enough : text.toList.length ≤ (text.toList.flatMap escape).length := by
    induction text.toList with
    | nil => exact Nat.le_refl _
    | cons character characters ih =>
        have some := List.length_pos_iff.mpr (escape_ne_nil character)
        simp only [List.flatMap_cons, List.length_append, List.length_cons]
        omega
  refine ⟨text.toList.flatMap escape ++ '"' :: rest, by simp [quote], ?_⟩
  rw [readQuoted_escapes]
  · simp
  · simp only [List.length_append, List.length_cons]
    omega

/-- The characters that a number can go on with. -/
def isNumeric (character : Char) : Bool :=
  Text.isDigit character || character == '.' || character == 'e' || character == 'E'

/-- What ends a number ends its digits. -/
theorem stops_digits (stops : Text.Stops isNumeric rest) : Text.Stops Text.isDigit rest := by
  cases rest with
  | nil => rfl
  | cons character rest =>
      simp only [Text.Stops, List.head?_cons, Option.any_some, isNumeric, Bool.or_eq_false_iff]
        at stops ⊢
      exact stops.1.1.1

theorem readDigits_toDigits (number : Nat) (stops : Text.Stops Text.isDigit rest) :
    readDigits (Nat.toDigits 10 number ++ rest) = (Nat.toDigits 10 number, rest) := by
  rw [readDigits, Text.takeWhile_stops (fun _ => Text.isDigit_toDigits) stops,
    Text.dropWhile_stops (fun _ => Text.isDigit_toDigits) stops]

/-- The digits of a number are no empty text and have no leading zero. -/
theorem toDigits_whole (number : Nat) : ((Nat.toDigits 10 number).isEmpty ||
    ((Nat.toDigits 10 number).head? == some '0' && (Nat.toDigits 10 number).length != 1)) =
      false := by
  rcases Nat.eq_zero_or_pos number with rfl | positive
  · rfl
  · have head := Text.head?_toDigits positive
    simp [head]

/-- Digits do not begin with a mark. -/
theorem toDigits_unmarked {mark : Char} (noDigit : Text.isDigit mark = false) (number : Nat)
    {others : Rest} : Nat.toDigits 10 number ++ rest ≠ mark :: others := by
  intro marked
  cases digits : Nat.toDigits 10 number with
  | nil => exact absurd digits (by simp)
  | cons digit others =>
      rw [digits] at marked
      obtain ⟨rfl, -⟩ := List.cons.inj marked
      have within : Text.isDigit digit := Text.isDigit_toDigits (digits ▸ List.mem_cons_self)
      rw [noDigit] at within
      exact absurd within Bool.false_ne_true

/-- What ends a number is no point and no letter of an exponent. -/
theorem stops_marks {character : Char} (stops : Text.Stops isNumeric (character :: rest)) :
    character ≠ '.' ∧ character ≠ 'e' ∧ character ≠ 'E' := by
  simp only [Text.Stops, List.head?_cons, Option.any_some, isNumeric, Bool.or_eq_false_iff,
    beq_eq_false_iff_ne] at stops
  exact ⟨stops.1.1.2, stops.1.2, stops.2⟩

/-- The sign of a number is told from its digits. -/
theorem sign_toDigits (negative : Bool) (number : Nat) (source : Rest) :
    source = (if negative then ['-'] else []) ++ (Nat.toDigits 10 number ++ rest) →
      (match source with
        | '-' :: rest => (true, rest)
        | _ => (false, source)) = (negative, Nat.toDigits 10 number ++ rest) := by
  rintro rfl
  cases negative with
  | true => rfl
  | false =>
      split
      case h_1 signed => exact absurd signed (toDigits_unmarked (by decide) number)
      case h_2 => rfl

/-- The sign of an exponent is told from its digits. -/
theorem exponentSign_toDigits (negative : Bool) (number : Nat) (source : Rest) :
    source = (if negative then ['-'] else []) ++ (Nat.toDigits 10 number ++ rest) →
      (match source with
        | '-' :: rest => (true, rest)
        | '+' :: rest => (false, rest)
        | _ => (false, source)) = (negative, Nat.toDigits 10 number ++ rest) := by
  rintro rfl
  cases negative with
  | true => rfl
  | false =>
      split
      case h_1 signed => exact absurd signed (toDigits_unmarked (by decide) number)
      case h_2 signed => exact absurd signed (toDigits_unmarked (by decide) number)
      case h_3 => rfl

theorem toList_signedDecimal (value : Int) : (Text.signedDecimal value).toList =
    (if decide (value < 0) then ['-'] else []) ++ Nat.toDigits 10 value.natAbs := by
  simp only [decide_eq_true_eq]
  rw [Text.signedDecimal, Text.decimal, Nat.repr_eq_ofList_toDigits]
  split <;> simp

theorem signed_abs (value : Int) : (if value < 0 then -|value| else |value|) = value := by
  split
  case isTrue below => rw [abs_of_neg below, neg_neg]
  case isFalse above => exact abs_of_nonneg (not_lt.mp above)

/-- An integer is read as it is written. -/
theorem readNumeral_integer (value : Int) (stops : Text.Stops isNumeric rest) :
    readNumeral ((Text.signedDecimal value).toList ++ rest) = some (.integer value, rest) := by
  have digits := readDigits_toDigits value.natAbs (stops_digits stops)
  have whole := toDigits_whole value.natAbs
  have read := signed_abs value
  rw [toList_signedDecimal, List.append_assoc]
  unfold readNumeral
  split
  next negative source signed =>
    obtain ⟨rfl, rfl⟩ := Prod.mk.inj (signed.symm.trans (sign_toDigits _ _ _ rfl))
    rw [digits]
    dsimp only
    rw [whole]
    cases rest with
    | nil =>
        simp [Text.ofDigits_toDigits, read]
        omega
    | cons character rest =>
        obtain ⟨point, lower, upper⟩ := stops_marks stops
        simp [point, lower, upper, Text.ofDigits_toDigits, read]
        omega

theorem readNumber_integer (value : Int) (stops : Text.Stops isNumeric rest) :
    readNumber ((Text.signedDecimal value).toList ++ rest) = some (.integer value, rest) := by
  rw [readNumber, readNumeral_integer value stops]

/-- An exponent is read as it is written. -/
theorem readExponent_signedDecimal (exponent : Int) (stops : Text.Stops Text.isDigit rest) :
    readExponent ((Text.signedDecimal exponent).toList ++ rest) = some (exponent, rest) := by
  have digits := readDigits_toDigits exponent.natAbs stops
  rw [toList_signedDecimal, List.append_assoc]
  unfold readExponent
  split
  next negative source signed =>
    obtain ⟨rfl, rfl⟩ := Prod.mk.inj (signed.symm.trans (exponentSign_toDigits _ _ _ rfl))
    rw [digits]
    simp [Text.ofDigits_toDigits, signed_abs]

theorem renderDecimal_append (negative : Bool) (digits : Nat) (exponent : Int) :
    (renderDecimal negative digits exponent).toList ++ rest =
      (if negative then ['-'] else []) ++ (Nat.toDigits 10 digits ++
        ('e' :: ((Text.signedDecimal exponent).toList ++ rest))) := by
  cases negative <;>
    simp [renderDecimal, Text.decimal, Nat.repr_eq_ofList_toDigits]

/-- A decimal is read as it is written. -/
theorem readNumeral_decimal (negative : Bool) (digits : Nat) (exponent : Int)
    (stops : Text.Stops isNumeric rest) :
    readNumeral ((renderDecimal negative digits exponent).toList ++ rest) =
      some (.decimal negative digits exponent, rest) := by
  have read := readExponent_signedDecimal exponent (stops_digits stops)
  have whole := toDigits_whole digits
  rw [renderDecimal_append]
  unfold readNumeral
  split
  next negative source signed =>
    obtain ⟨rfl, rfl⟩ := Prod.mk.inj (signed.symm.trans (sign_toDigits _ _ _ rfl))
    rw [readDigits_toDigits _ (Text.stops_cons rfl)]
    dsimp only
    rw [whole]
    simp [Text.ofDigits_toDigits, read]

theorem readNumber_decimal (negative : Bool) {digits : Nat} {exponent : Int}
    (inRange : decimalInRange digits exponent) (stops : Text.Stops isNumeric rest) :
    readNumber ((renderDecimal negative digits exponent).toList ++ rest) =
      some (.decimal negative digits exponent, rest) := by
  rw [readNumber, readNumeral_decimal negative digits exponent stops]
  exact if_pos inRange

/-- A number begins with a sign or a digit. -/
def Numeral (source : Rest) : Prop :=
  ∃ head tail, source = head :: tail ∧ (head = '-' ∨ Text.isDigit head)

theorem numeral_toDigits (negative : Bool) (number : Nat) :
    Numeral ((if negative then ['-'] else []) ++ (Nat.toDigits 10 number ++ rest)) := by
  cases negative with
  | true => exact ⟨'-', _, rfl, .inl rfl⟩
  | false =>
      cases digits : Nat.toDigits 10 number with
      | nil => exact absurd digits (by simp)
      | cons digit others =>
          exact ⟨digit, _, rfl, .inr (Text.isDigit_toDigits (digits ▸ List.mem_cons_self))⟩

theorem numeral_integer (value : Int) :
    Numeral ((Text.signedDecimal value).toList ++ rest) := by
  rw [toList_signedDecimal, List.append_assoc]
  exact numeral_toDigits _ _

theorem numeral_decimal (negative : Bool) (digits : Nat) (exponent : Int) :
    Numeral ((renderDecimal negative digits exponent).toList ++ rest) := by
  rw [renderDecimal_append]
  exact numeral_toDigits _ _

/-- A number begins with none of the other characters. -/
theorem Numeral.head_ne {head other : Char} {tail : Rest} (numeral : Numeral (head :: tail))
    (sign : other ≠ '-') (digit : Text.isDigit other = false) : head ≠ other := by
  obtain ⟨_, _, same, begun⟩ := numeral
  obtain ⟨rfl, rfl⟩ := List.cons.inj same
  rintro rfl
  rcases begun with rfl | begun
  · exact sign rfl
  · exact Bool.false_ne_true (digit.symm.trans begun)

end DeviceKernels.Json
