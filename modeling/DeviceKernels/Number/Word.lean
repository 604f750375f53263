/-
Machine words. A word is written as its little-endian bytes, and a quantity that must fit a word
is cut to the nearest value that does.
-/

namespace DeviceKernels

/-- A byte string. -/
abbrev Bytes := List UInt8

namespace Number

/-- The `count` low-order bytes of a number, the least significant byte first. -/
def littleEndian : Nat → Nat → Bytes
  | 0, _ => []
  | count + 1, value => UInt8.ofNat (value % 256) :: littleEndian count (value / 256)

/-- The number that little-endian bytes denote. -/
def ofLittleEndian : Bytes → Nat
  | [] => 0
  | byte :: rest => byte.toNat + 256 * ofLittleEndian rest

@[simp] theorem lengthLittleEndian (count value : Nat) :
    (littleEndian count value).length = count := by
  induction count generalizing value with
  | zero => rfl
  | succ count inductionHypothesis => simp [littleEndian, inductionHypothesis]

theorem ofLittleEndianLittleEndian (count value : Nat) :
    ofLittleEndian (littleEndian count value) = value % Nat.pow 256 count := by
  induction count generalizing value with
  | zero => simp [littleEndian, ofLittleEndian, Nat.mod_one]
  | succ count inductionHypothesis =>
      have byteValue : (UInt8.ofNat (value % 256)).toNat = value % 256 := by
        simp [UInt8.toNat_ofNat']
      have powerStep : Nat.pow 256 (count + 1) = 256 * Nat.pow 256 count :=
        Nat.mul_comm (Nat.pow 256 count) 256
      rw [littleEndian, ofLittleEndian, inductionHypothesis, byteValue, powerStep, Nat.mod_mul]

def word32 (value : UInt32) : Bytes := littleEndian 4 value.toNat

def word64 (value : UInt64) : Bytes := littleEndian 8 value.toNat

/-- A signed word has the bytes of its two's complement. -/
def signedWord32 (value : Int32) : Bytes := word32 value.toUInt32

def signedWord64 (value : Int64) : Bytes := word64 value.toUInt64

/-- The 32-bit word of a number; none where the program stops because there is no such word. -/
def checked32 (number : Nat) : Option UInt32 :=
  if number < UInt32.size then some (UInt32.ofNat number) else none

def checkedSum (first second : UInt32) : Option UInt32 := checked32 (first.toNat + second.toNat)

def checkedProduct (first second : UInt32) : Option UInt32 := checked32 (first.toNat * second.toNat)

/-- A checked result is exact. -/
theorem checked32_eq_some {number : Nat} {word : UInt32} :
    checked32 number = some word ↔ word.toNat = number := by
  rw [checked32]
  split
  case isTrue fits =>
    rw [Option.some.injEq, ← UInt32.toNat_inj, UInt32.toNat_ofNat_of_lt' fits, eq_comm]
  case isFalse large =>
    refine ⟨nofun, ?_⟩
    rintro rfl
    exact absurd word.toNat_lt large

theorem checked32_of_lt {number : Nat} (fits : number < UInt32.size) :
    ∃ word, checked32 number = some word := ⟨_, if_pos fits⟩

/-- The nearest value of a 32-bit signed word. -/
def saturate32 (value : Int) : Int32 :=
  Int32.ofInt (max Int32.minValue.toInt (min Int32.maxValue.toInt value))

/-- The quotient toward zero of `dividend + divisor - 1`: for a positive dividend and divisor the
number of parts of size `divisor` that cover `dividend`. -/
def ceilDiv (dividend divisor : Int) : Int := (dividend + divisor - 1).tdiv divisor

/-- The least multiple of `step` that is not below `value`. -/
def roundUp (value step : Nat) : Nat := (value + step - 1) / step * step

theorem leRoundUp {step : Nat} (positive : 0 < step) (value : Nat) : value ≤ roundUp value step := by
  have whole := Nat.div_add_mod' (value + step - 1) step
  have rest := Nat.mod_lt (value + step - 1) positive
  rw [roundUp]
  omega

theorem dvdRoundUp (value step : Nat) : step ∣ roundUp value step := Nat.dvd_mul_left step _

/-- The largest count that a 64-bit word holds. -/
def maxWord64 : Nat := UInt64.size - 1

/-- A number that is a 64-bit word; none where the program stops because it is not. -/
def checked64 (number : Nat) : Option Nat := if number ≤ maxWord64 then some number else none

def total (numbers : List Nat) : Nat := numbers.foldr (· + ·) 0

@[simp] theorem totalNil : total [] = 0 := rfl

@[simp] theorem totalCons (number : Nat) (numbers : List Nat) :
    total (number :: numbers) = number + total numbers := rfl

@[simp] theorem totalAppend (first second : List Nat) :
    total (first ++ second) = total first + total second := by
  induction first with
  | nil => simp
  | cons number rest inductionHypothesis => simp [inductionHypothesis, Nat.add_assoc]

theorem totalPerm {first second : List Nat} (same : first.Perm second) :
    total first = total second := by
  induction same with
  | nil => rfl
  | cons number _ inductionHypothesis => simp [inductionHypothesis]
  | swap first second rest => simp only [totalCons]; omega
  | trans _ _ firstStep secondStep => exact firstStep.trans secondStep

end Number

end DeviceKernels
