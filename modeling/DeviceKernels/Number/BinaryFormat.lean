/-
Binary floating-point formats. A bit pattern denotes a sign, a significand and an exponent, or one
of the special values.
-/

namespace DeviceKernels.Number

/-- A format has a sign bit, an exponent field and a fraction field. -/
structure BinaryFormat where
  fractionBits : Nat
  exponentBits : Nat
  deriving DecidableEq, Repr

namespace BinaryFormat

def half : BinaryFormat := ⟨10, 5⟩

def brain : BinaryFormat := ⟨7, 8⟩

def single : BinaryFormat := ⟨23, 8⟩

def double : BinaryFormat := ⟨52, 11⟩

/-- The exponent of the last place of a subnormal number. -/
def leastExponent (format : BinaryFormat) : Int :=
  2 - (Nat.pow 2 (format.exponentBits - 1) : Int) - format.fractionBits

/-- The pattern of positive infinity. -/
def infinityPattern (format : BinaryFormat) : Nat :=
  (Nat.pow 2 format.exponentBits - 1) * Nat.pow 2 format.fractionBits

/-- The positive quiet pattern that stands for every invalid result. -/
def quietPattern (format : BinaryFormat) : Nat :=
  format.infinityPattern + Nat.pow 2 (format.fractionBits - 1)

def signPattern (format : BinaryFormat) (negative : Bool) : Nat :=
  if negative then Nat.pow 2 (format.fractionBits + format.exponentBits) else 0

end BinaryFormat

/-- A finite value is `significand * 2 ^ exponent` with a sign, so that zero keeps its sign. -/
inductive FloatValue
  | invalid
  | infinite (negative : Bool)
  | finite (negative : Bool) (significand : Nat) (exponent : Int)
  deriving DecidableEq, Repr

/-- The integer nearest to a ratio; a tie goes to the even one. -/
def divideToEven (dividend divisor : Nat) : Nat :=
  let quotient := dividend / divisor
  let twice := 2 * (dividend % divisor)
  if divisor < twice || (twice == divisor && quotient % 2 == 1) then quotient + 1 else quotient

/-- The floor of the base-two logarithm of a positive ratio. -/
def floorLog (dividend divisor : Nat) : Int :=
  let guess : Int := (dividend.log2 : Int) - divisor.log2
  if dividend * Nat.pow 2 (-guess).toNat < divisor * Nat.pow 2 guess.toNat then guess - 1
  else guess

namespace BinaryFormat

/-- The value of a bit pattern. -/
def unpack (format : BinaryFormat) (pattern : Nat) : FloatValue :=
  let fraction := pattern % Nat.pow 2 format.fractionBits
  let exponent := pattern / Nat.pow 2 format.fractionBits % Nat.pow 2 format.exponentBits
  let negative := pattern / Nat.pow 2 (format.fractionBits + format.exponentBits) % 2 == 1
  if exponent == Nat.pow 2 format.exponentBits - 1 then
    if fraction == 0 then .infinite negative else .invalid
  else if exponent == 0 then .finite negative fraction format.leastExponent
  else
    .finite negative (Nat.pow 2 format.fractionBits + fraction)
      (format.leastExponent + exponent - 1)

/-- The pattern nearest to a ratio. The places above the fraction field carry into the exponent
field, so one sum covers subnormal and normal numbers. -/
def roundRatio (format : BinaryFormat) (dividend divisor : Nat) : Nat :=
  if dividend == 0 then 0
  else
    let exponent := max format.leastExponent (floorLog dividend divisor - format.fractionBits)
    let significand := divideToEven (dividend * Nat.pow 2 (-exponent).toNat)
      (divisor * Nat.pow 2 exponent.toNat)
    let places := (exponent - format.leastExponent).toNat
    min format.infinityPattern (places * Nat.pow 2 format.fractionBits + significand)

/-- The pattern nearest to a value of any format. -/
def round (format : BinaryFormat) : FloatValue → Nat
  | .invalid => format.quietPattern
  | .infinite negative => format.signPattern negative + format.infinityPattern
  | .finite negative significand exponent =>
      format.signPattern negative +
        format.roundRatio (significand * Nat.pow 2 exponent.toNat) (Nat.pow 2 (-exponent).toNat)

end BinaryFormat

namespace FloatValue

/-- The signed significand of a finite value at an exponent that is not above its own. -/
def scaled (negative : Bool) (significand : Nat) (places : Nat) : Int :=
  let magnitude := significand * Nat.pow 2 places
  if negative then -(magnitude : Int) else magnitude

/-- The finite value `number * 2 ^ exponent`; zero takes the given sign. -/
def ofScaled (zeroNegative : Bool) (number exponent : Int) : FloatValue :=
  .finite (if number == 0 then zeroNegative else number < 0) number.natAbs exponent

def negate : FloatValue → FloatValue
  | .invalid => .invalid
  | .infinite negative => .infinite (!negative)
  | .finite negative significand exponent => .finite (!negative) significand exponent

/-- The exact sum. -/
def add : FloatValue → FloatValue → FloatValue
  | .invalid, _ => .invalid
  | _, .invalid => .invalid
  | .infinite first, .infinite second => if first == second then .infinite first else .invalid
  | .infinite negative, .finite .. => .infinite negative
  | .finite .., .infinite negative => .infinite negative
  | .finite negative₁ significand₁ exponent₁, .finite negative₂ significand₂ exponent₂ =>
      let exponent := min exponent₁ exponent₂
      ofScaled (negative₁ && negative₂)
        (scaled negative₁ significand₁ (exponent₁ - exponent).toNat +
          scaled negative₂ significand₂ (exponent₂ - exponent).toNat)
        exponent

/-- The exact product. -/
def multiply : FloatValue → FloatValue → FloatValue
  | .invalid, _ => .invalid
  | _, .invalid => .invalid
  | .infinite first, .infinite second => .infinite (first != second)
  | .infinite first, .finite second significand _ =>
      if significand == 0 then .invalid else .infinite (first != second)
  | .finite first significand _, .infinite second =>
      if significand == 0 then .invalid else .infinite (first != second)
  | .finite negative₁ significand₁ exponent₁, .finite negative₂ significand₂ exponent₂ =>
      .finite (negative₁ != negative₂) (significand₁ * significand₂) (exponent₁ + exponent₂)

/-- The order of values; an invalid value is below nothing and above nothing. -/
def less : FloatValue → FloatValue → Bool
  | .invalid, _ => false
  | _, .invalid => false
  | .infinite first, .infinite second => first && !second
  | .infinite negative, .finite .. => negative
  | .finite .., .infinite negative => !negative
  | .finite negative₁ significand₁ exponent₁, .finite negative₂ significand₂ exponent₂ =>
      let exponent := min exponent₁ exponent₂
      scaled negative₁ significand₁ (exponent₁ - exponent).toNat <
        scaled negative₂ significand₂ (exponent₂ - exponent).toNat

/-- The nearest integer; a tie goes away from zero. -/
def roundAway : FloatValue → FloatValue
  | .finite negative significand exponent =>
      if 0 ≤ exponent then .finite negative significand exponent
      else
        let half := Nat.pow 2 ((-exponent).toNat - 1)
        .finite negative ((significand + half) / (2 * half)) 0
  | value => value

/-- The integer toward zero, or nothing when the value is not finite. -/
def truncate? : FloatValue → Option Int
  | .finite negative significand exponent =>
      let magnitude := significand * Nat.pow 2 exponent.toNat / Nat.pow 2 (-exponent).toNat
      some (if negative then -(magnitude : Int) else magnitude)
  | _ => none

end FloatValue

end DeviceKernels.Number
