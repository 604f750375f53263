import DeviceKernels.Number.BinaryFormat
import DeviceKernels.Number.Word

/-
Single and double precision numbers as bit patterns. Each operation computes the exact value and
rounds once.
-/

namespace DeviceKernels.Number

structure Binary32 where
  bits : UInt32
  deriving DecidableEq, Repr, Inhabited

structure Binary64 where
  bits : UInt64
  deriving DecidableEq, Repr, Inhabited

namespace Binary32

def value (number : Binary32) : FloatValue := BinaryFormat.single.unpack number.bits.toNat

def ofValue (value : FloatValue) : Binary32 := ⟨UInt32.ofNat (BinaryFormat.single.round value)⟩

def ofInt (number : Int) : Binary32 := ofValue (.ofScaled false number 0)

def zero : Binary32 := ⟨0⟩

def one : Binary32 := ⟨0x3f800000⟩

def negate (number : Binary32) : Binary32 := ⟨number.bits ^^^ 0x80000000⟩

def add (first second : Binary32) : Binary32 := ofValue (first.value.add second.value)

def multiply (first second : Binary32) : Binary32 := ofValue (first.value.multiply second.value)

/-- The quotient. A zero divisor gives infinity, and two zeros or two infinities an invalid
result. -/
def divide (first second : Binary32) : Binary32 :=
  match first.value, second.value with
  | .invalid, _ => ofValue .invalid
  | _, .invalid => ofValue .invalid
  | .infinite _, .infinite _ => ofValue .invalid
  | .infinite negative₁, .finite negative₂ _ _ => ofValue (.infinite (negative₁ != negative₂))
  | .finite negative₁ _ _, .infinite negative₂ => ofValue (.finite (negative₁ != negative₂) 0 0)
  | .finite negative₁ significand₁ exponent₁, .finite negative₂ significand₂ exponent₂ =>
      if significand₂ == 0 then
        if significand₁ == 0 then ofValue .invalid
        else ofValue (.infinite (negative₁ != negative₂))
      else
        let exponent := exponent₁ - exponent₂
        ⟨UInt32.ofNat (BinaryFormat.single.signPattern (negative₁ != negative₂) +
          BinaryFormat.single.roundRatio (significand₁ * Nat.pow 2 exponent.toNat)
            (significand₂ * Nat.pow 2 (-exponent).toNat))⟩

def less (first second : Binary32) : Bool := first.value.less second.value

/-- The number cut to a range; an invalid number passes unchanged. -/
def clamp (number lower upper : Binary32) : Binary32 :=
  if number.less lower then lower else if upper.less number then upper else number

/-- The number if it is positive, else zero. -/
def positivePart (number : Binary32) : Binary32 := if zero.less number then number else zero

/-- The nearest integer; a tie goes away from zero. -/
def roundAway (number : Binary32) : Binary32 := ofValue number.value.roundAway

def exponential (number : Binary32) : Binary32 :=
  ⟨(Float32.exp (Float32.ofBits number.bits)).toBits⟩

def hyperbolicTangent (number : Binary32) : Binary32 :=
  ⟨(Float32.tanh (Float32.ofBits number.bits)).toBits⟩

instance : Add Binary32 := ⟨add⟩

instance : Mul Binary32 := ⟨multiply⟩

instance : Div Binary32 := ⟨divide⟩

instance : Neg Binary32 := ⟨negate⟩

end Binary32

namespace Binary64

def value (number : Binary64) : FloatValue := BinaryFormat.double.unpack number.bits.toNat

def zero : Binary64 := ⟨0⟩

def one : Binary64 := ⟨0x3ff0000000000000⟩

/-- Both zeros are zero; an invalid number is not. -/
def isZero (number : Binary64) : Bool := number.bits &&& 0x7fffffffffffffff == 0

def ofValue (value : FloatValue) : Binary64 := ⟨UInt64.ofNat (BinaryFormat.double.round value)⟩

/-- The number nearest to `digits * 10 ^ exponent`. With `digits < 2 ^ (bits + 1)` and
`10 ^ exponent < 2 ^ (3 * exponent)` for a negative exponent, a value below `2 ^ -1100` is under
half of the least subnormal number and gives zero. -/
def ofDecimal (negative : Bool) (digits : Nat) (exponent : Int) : Binary64 :=
  let sign := BinaryFormat.double.signPattern negative
  if (digits.log2 : Int) + 1 + 3 * exponent < -1100 && exponent < 0 then ⟨UInt64.ofNat sign⟩
  else
    ⟨UInt64.ofNat (sign +
      BinaryFormat.double.roundRatio (digits * Nat.pow 10 exponent.toNat)
        (Nat.pow 10 (-exponent).toNat))⟩

def toBinary32 (number : Binary64) : Binary32 := .ofValue number.value

/-- The pattern of the nearest number of another format. -/
def convert (number : Binary64) (format : BinaryFormat) : Nat := format.round number.value

/-- The integer toward zero, cut to a 32-bit word; an invalid number gives zero. -/
def toInt32 (number : Binary64) : Int32 :=
  match number.value with
  | .invalid => 0
  | .infinite negative => if negative then Int32.minValue else Int32.maxValue
  | finite => saturate32 (finite.truncate?.getD 0)

end Binary64

end DeviceKernels.Number
