import DeviceKernels.Number.Word

/-
Hexadecimal text. Bytes are written as two lower-case digits each; a reader takes digits of either
case.
-/

namespace DeviceKernels.Text

def hexDigit (value : Nat) : Char :=
  if value < 10 then Char.ofNat ('0'.toNat + value) else Char.ofNat ('a'.toNat + (value - 10))

def hexValue? (digit : Char) : Option Nat :=
  if '0' ≤ digit ∧ digit ≤ '9' then some (digit.toNat - '0'.toNat)
  else if 'a' ≤ digit ∧ digit ≤ 'f' then some (digit.toNat - 'a'.toNat + 10)
  else if 'A' ≤ digit ∧ digit ≤ 'F' then some (digit.toNat - 'A'.toNat + 10)
  else none

def hexDigits : Bytes → List Char
  | [] => []
  | byte :: rest =>
      hexDigit (byte.toNat / 16) :: hexDigit (byte.toNat % 16) :: hexDigits rest

def hexBytes? : List Char → Option Bytes
  | [] => some []
  | [_] => none
  | high :: low :: rest => do
      let highValue ← hexValue? high
      let lowValue ← hexValue? low
      let bytes ← hexBytes? rest
      some (UInt8.ofNat (16 * highValue + lowValue) :: bytes)

def hex (bytes : Bytes) : String := String.ofList (hexDigits bytes)

def ofHex? (text : String) : Option Bytes := hexBytes? text.toList

/-- The number that hexadecimal digits denote, the most significant digit first. -/
def hexNumber? (digits : List Char) : Option Nat :=
  digits.foldl (fun number digit => do some (16 * (← number) + (← hexValue? digit))) (some 0)

/-- The digits of a number without leading zeros. -/
def hexNumeral (number : Nat) : String := String.ofList (Nat.toDigits 16 number)

theorem hexValueHexDigit (value : Nat) (small : value < 16) :
    hexValue? (hexDigit value) = some value := by
  have cases : ∀ index : Fin 16, hexValue? (hexDigit index.val) = some index.val := by decide
  exact cases ⟨value, small⟩

theorem hexBytesHexDigits (bytes : Bytes) : hexBytes? (hexDigits bytes) = some bytes := by
  induction bytes with
  | nil => rfl
  | cons byte rest inductionHypothesis =>
      have high := hexValueHexDigit (byte.toNat / 16) (by have := byte.toNat_lt; omega)
      have low := hexValueHexDigit (byte.toNat % 16) (Nat.mod_lt _ (by decide))
      have whole : UInt8.ofNat (16 * (byte.toNat / 16) + byte.toNat % 16) = byte := by
        rw [Nat.div_add_mod, UInt8.ofNat_toNat]
      simp only [hexDigits, hexBytes?, high, low, inductionHypothesis, Option.bind_eq_bind,
        Option.bind_some, whole]

theorem ofHexHex (bytes : Bytes) : ofHex? (hex bytes) = some bytes := by
  simp [ofHex?, hex, hexBytesHexDigits]

end DeviceKernels.Text
