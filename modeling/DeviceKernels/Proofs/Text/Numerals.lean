import DeviceKernels.Proofs.Text.Reading

/-
Numerals there and back. The digits of a number denote it, leading zeros do not count, and a
reader that takes digits stops where they end.
-/

namespace DeviceKernels.Text

/-- The characters do not begin with one of the class. -/
def Stops (inside : Char → Bool) (characters : List Char) : Prop :=
  characters.head?.any inside = false

variable {inside : Char → Bool} {digits rest : List Char}

theorem stops_cons {character : Char} (outside : inside character = false) :
    Stops inside (character :: rest) := outside

/-- Characters of a class are taken up to where it ends. -/
theorem takeWhile_stops (within : ∀ digit ∈ digits, inside digit) (stops : Stops inside rest) :
    (digits ++ rest).takeWhile inside = digits := by
  rw [List.takeWhile_append_of_pos within]
  cases rest with
  | nil => simp
  | cons character rest => rw [List.takeWhile_cons_of_neg (by simpa [Stops] using stops),
      List.append_nil]

/-- Characters of a class are dropped up to where it ends. -/
theorem dropWhile_stops (within : ∀ digit ∈ digits, inside digit) (stops : Stops inside rest) :
    (digits ++ rest).dropWhile inside = rest := by
  rw [List.dropWhile_append_of_pos within]
  cases rest with
  | nil => rfl
  | cons character rest => exact List.dropWhile_cons_of_neg (by simpa [Stops] using stops)

theorem digitValue_digitChar {value : Nat} (small : value < 10) :
    digitValue (Nat.digitChar value) = value := by
  have cases : ∀ index : Fin 10, digitValue (Nat.digitChar index.val) = index.val := by decide
  exact cases ⟨value, small⟩

/-- The last digit counts ones, the digits before it tens. -/
theorem ofDigits_concat (digits : List Char) (digit : Char) :
    ofDigits (digits ++ [digit]) = 10 * ofDigits digits + digitValue digit := by
  simp [ofDigits]

/-- The digits of a number denote it. -/
theorem ofDigits_toDigits (number : Nat) : ofDigits (Nat.toDigits 10 number) = number := by
  induction number using Nat.strongRecOn with
  | ind number ih =>
      rw [Nat.toDigits_eq_if (by omega)]
      split
      case isTrue small => simpa [ofDigits] using digitValue_digitChar small
      case isFalse large =>
        rw [ofDigits_concat, ih (number / 10) (by omega),
          digitValue_digitChar (Nat.mod_lt number (by omega))]
        omega

/-- Leading zeros do not count. -/
theorem ofDigits_zeros (count : Nat) (digits : List Char) :
    ofDigits (List.replicate count '0' ++ digits) = ofDigits digits := by
  induction count with
  | zero => rfl
  | succ count ih =>
      rw [← ih, List.replicate_succ, List.cons_append, ofDigits, List.foldl_cons]
      rfl

/-- The numeral of a positive number does not begin with a zero. -/
theorem head?_toDigits {number : Nat} (positive : 0 < number) :
    (Nat.toDigits 10 number).head? ≠ some '0' := by
  induction number using Nat.strongRecOn with
  | ind number ih =>
      rw [Nat.toDigits_eq_if (by omega)]
      split
      case isTrue small =>
        have cases : ∀ index : Fin 10, 0 < index.val →
            [Nat.digitChar index.val].head? ≠ some '0' := by decide
        exact cases ⟨number, small⟩ positive
      case isFalse large =>
        have head := ih (number / 10) (by omega) (by omega)
        cases digits : Nat.toDigits 10 (number / 10) with
        | nil => exact absurd digits (by simp)
        | cons first others =>
            rw [digits] at head
            exact head

theorem toList_paddedDecimal (width number : Nat) : (paddedDecimal width number).toList =
    List.replicate (width - (Nat.toDigits 10 number).length) '0' ++ Nat.toDigits 10 number := by
  rw [paddedDecimal, String.toList_ofList]

theorem isDigit_paddedDecimal {width number : Nat} {digit : Char}
    (member : digit ∈ (paddedDecimal width number).toList) : isDigit digit := by
  rw [toList_paddedDecimal, List.mem_append] at member
  rcases member with zero | member
  · rw [(List.mem_replicate.mp zero).2]
    rfl
  · exact isDigit_toDigits member

/-- A padded numeral denotes its number. -/
theorem ofDigits_paddedDecimal (width number : Nat) :
    ofDigits (paddedDecimal width number).toList = number := by
  rw [toList_paddedDecimal, ofDigits_zeros, ofDigits_toDigits]

/-- A number of at most some digits is padded to as many. -/
theorem length_paddedDecimal {width number : Nat} (some : 0 < width)
    (small : number < 10 ^ width) : (paddedDecimal width number).toList.length = width := by
  have fits := (Nat.length_toDigits_le_iff (b := 10) (by omega) some).mpr small
  rw [toList_paddedDecimal, List.length_append, List.length_replicate]
  omega

end DeviceKernels.Text
