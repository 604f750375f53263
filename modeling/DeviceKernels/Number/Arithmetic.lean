/-
Arithmetic on 64-bit signed words. A result beyond them stops a program that checks for overflow;
a program that does not check goes on with the low-order bits.
-/

namespace DeviceKernels.Number

/-- What becomes of a result that is no word. -/
inductive Arithmetic where
  | checked
  | wrapping
  deriving DecidableEq, Repr

/-- The numbers that are 64-bit signed words. -/
def IsWord64 (number : Int) : Prop :=
  Int64.minValue.toInt ≤ number ∧ number ≤ Int64.maxValue.toInt

instance (number : Int) : Decidable (IsWord64 number) := inferInstanceAs (Decidable (_ ∧ _))

theorem toInt_ofInt_of_isWord64 {number : Int} (word : IsWord64 number) :
    (Int64.ofInt number).toInt = number :=
  Int64.toInt_ofInt_of_le word.1 (Int.lt_add_one_of_le word.2)

theorem isWord64_toInt (word : Int64) : IsWord64 word.toInt :=
  ⟨word.minValue_le_toInt, word.toInt_le⟩

namespace Arithmetic

/-- The word of a result; none if the program stops. -/
def word? (arithmetic : Arithmetic) (number : Int) : Option Int64 :=
  match arithmetic with
  | .checked => if IsWord64 number then some (Int64.ofInt number) else none
  | .wrapping => some (Int64.ofInt number)

/-- Both kinds of arithmetic agree on words. -/
theorem word?_of_isWord64 (arithmetic : Arithmetic) {number : Int} (word : IsWord64 number) :
    arithmetic.word? number = some (Int64.ofInt number) := by
  cases arithmetic with
  | checked => exact if_pos word
  | wrapping => rfl

/-- A checked result is exact. -/
theorem checked_word?_eq_some {number : Int} {word : Int64} :
    checked.word? number = some word ↔ word.toInt = number := by
  constructor
  · intro kept
    by_cases fits : IsWord64 number
    · rw [word?_of_isWord64 checked fits] at kept
      exact (Option.some.inj kept) ▸ toInt_ofInt_of_isWord64 fits
    · rw [word?, if_neg fits] at kept
      cases kept
  · rintro rfl
    rw [word?_of_isWord64 checked (isWord64_toInt word), Int64.ofInt_toInt]

end Arithmetic

end DeviceKernels.Number
