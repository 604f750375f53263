import DeviceKernels.Text.Numeral

/-
Instants of time and their written form, a date and a time of day with a time zone. A reader takes
any zone and white space between the parts; the written form is always in universal time.
-/

namespace DeviceKernels

/-- Whole seconds since the start of 1970 and nanoseconds. A leap second is the second before it
with a billion nanoseconds more. -/
structure Instant where
  seconds : Int
  nanoseconds : Nat
  deriving DecidableEq, Repr, Inhabited

namespace Instant

def compare (first second : Instant) : Ordering :=
  (Ord.compare first.seconds second.seconds).then
    (Ord.compare first.nanoseconds second.nanoseconds)

/-- Whether an instant is not after another. -/
def notAfter (first second : Instant) : Bool := compare first second != .gt

def isLeapYear (year : Int) : Bool := year % 4 == 0 && (year % 100 != 0 || year % 400 == 0)

def daysInMonth (year : Int) (month : Nat) : Nat :=
  if month == 2 then if isLeapYear year then 29 else 28
  else if month == 4 || month == 6 || month == 9 || month == 11 then 30
  else 31

/-- The days from the start of 1970 to a date. The year is counted from March, so that the day
added by a leap year is its last one. -/
def daysFromDate (year : Int) (month day : Nat) : Int :=
  let shifted : Int := if month ≤ 2 then year - 1 else year
  let era := shifted / 400
  let yearOfEra := shifted % 400
  let monthFromMarch : Int := if month ≤ 2 then (month : Int) + 9 else (month : Int) - 3
  let dayOfYear := (153 * monthFromMarch + 2) / 5 + day - 1
  let dayOfEra := yearOfEra * 365 + yearOfEra / 4 - yearOfEra / 100 + dayOfYear
  era * 146097 + dayOfEra - 719468

/-- The date a number of days after the start of 1970: year, month and day. -/
def dateFromDays (days : Int) : Int × Nat × Nat :=
  let shifted := days + 719468
  let era := shifted / 146097
  let dayOfEra := shifted % 146097
  let yearOfEra :=
    (dayOfEra - dayOfEra / 1460 + dayOfEra / 36524 - dayOfEra / 146096) / 365
  let dayOfYear := dayOfEra - (365 * yearOfEra + yearOfEra / 4 - yearOfEra / 100)
  let monthFromMarch := (5 * dayOfYear + 2) / 153
  let day := dayOfYear - (153 * monthFromMarch + 2) / 5 + 1
  let month := if monthFromMarch < 10 then monthFromMarch + 3 else monthFromMarch - 9
  let year := yearOfEra + era * 400 + (if month ≤ 2 then 1 else 0)
  (year, month.toNat, day.toNat)

/-- A year of four digits, or a sign and at least four digits. -/
def renderYear (year : Int) : String :=
  if 0 ≤ year ∧ year ≤ 9999 then Text.paddedDecimal 4 year.toNat
  else (if year < 0 then "-" else "+") ++ Text.paddedDecimal 4 year.natAbs

/-- The fewest of 0, 3, 6 and 9 digits that are exact. -/
def renderFraction (nanoseconds : Nat) : String :=
  if nanoseconds == 0 then ""
  else if nanoseconds % 1000000 == 0 then "." ++ Text.paddedDecimal 3 (nanoseconds / 1000000)
  else if nanoseconds % 1000 == 0 then "." ++ Text.paddedDecimal 6 (nanoseconds / 1000)
  else "." ++ Text.paddedDecimal 9 nanoseconds

def renderDate (instant : Instant) : String :=
  let (year, month, day) := dateFromDays (instant.seconds / 86400)
  renderYear year ++ "-" ++ Text.paddedDecimal 2 month ++ "-" ++ Text.paddedDecimal 2 day

def renderTime (instant : Instant) : String :=
  let secondOfDay := (instant.seconds % 86400).toNat
  let second := secondOfDay % 60 + instant.nanoseconds / 1000000000
  Text.paddedDecimal 2 (secondOfDay / 3600) ++ ":" ++
    Text.paddedDecimal 2 (secondOfDay / 60 % 60) ++ ":" ++ Text.paddedDecimal 2 second

def render (instant : Instant) : String :=
  instant.renderDate ++ "T" ++ instant.renderTime ++
    renderFraction (instant.nanoseconds % 1000000000) ++ "Z"

/-- One to `width` digits. -/
def readNumber (width : Nat) (text : List Char) : Option (Nat × List Char) :=
  let digits := (text.takeWhile Text.isDigit).take width
  if digits.isEmpty then none else some (Text.ofDigits digits, text.drop digits.length)

def readField (text : List Char) : Option (Nat × List Char) :=
  readNumber 2 (Text.trimStart text)

/-- A year has a sign and any number of digits, or up to four digits. -/
def readYear (text : List Char) : Option (Int × List Char) :=
  match Text.trimStart text with
  | '-' :: rest => (readNumber rest.length rest).map fun (year, rest) => (-(year : Int), rest)
  | '+' :: rest => (readNumber rest.length rest).map fun (year, rest) => ((year : Int), rest)
  | rest => (readNumber 4 rest).map fun (year, rest) => ((year : Int), rest)

/-- A mark that may have white space before it. -/
def readMark (mark : Char) (text : List Char) : Option (List Char) :=
  match Text.trimStart text with
  | character :: rest => if character == mark then some rest else none
  | [] => none

/-- A point and digits; the digits after the ninth do not count. -/
def readFraction : List Char → Option (Nat × List Char)
  | '.' :: rest =>
      let digits := rest.takeWhile Text.isDigit
      if digits.isEmpty then none
      else
        let kept := digits.take 9
        some (Text.ofDigits kept * Nat.pow 10 (9 - kept.length), rest.drop digits.length)
  | text => some (0, text)

/-- A zone of a sign, two digits of hours, and two digits of minutes after colons or white space. -/
def readOffset (text : List Char) : Option (Int × List Char) := do
  let (negative, text) ← match text with
    | '+' :: rest => some (false, rest)
    | '-' :: rest => some (true, rest)
    | character :: rest => if character.toNat == 0x2212 then some (true, rest) else none
    | [] => none
  match text with
  | tens :: ones :: rest =>
      if Text.isDigit tens && Text.isDigit ones then
        let rest := rest.dropWhile fun character => character == ':' || Text.isBlank character
        match rest with
        | minuteTens :: minuteOnes :: rest =>
            if Text.isDigit minuteTens && Text.isDigit minuteOnes && minuteTens < '6' then
              let seconds : Int := Text.ofDigits [tens, ones] * 3600 +
                Text.ofDigits [minuteTens, minuteOnes] * 60
              some (if negative then -seconds else seconds, rest)
            else none
        | _ => none
      else none
  | _ => none

/-- A zone: the letter `Z`, the word `UTC`, or an offset from universal time in seconds. -/
def readZone (text : List Char) : Option (Int × List Char) :=
  match text with
  | 'Z' :: rest => some (0, rest)
  | 'z' :: rest => some (0, rest)
  | first :: second :: third :: rest =>
      if [first, second, third].map Char.toUpper == ['U', 'T', 'C'] then some (0, rest)
      else readOffset text
  | _ => readOffset text

/-- Whether the calendar has a year. -/
def hasYear (year : Int) : Bool := -262143 ≤ year && year ≤ 262142

/-- The year that an instant falls in, in universal time. -/
def year (instant : Instant) : Int := (dateFromDays (instant.seconds / 86400)).1

/-- The year is one of the calendar in its own zone and in universal time. -/
def parse? (text : String) : Option Instant := do
  let (year, text) ← readYear text.toList
  let text ← readMark '-' text
  let (month, text) ← readField text
  let text ← readMark '-' text
  let (day, text) ← readField text
  let text ← match text with
    | 'T' :: rest => some rest
    | 't' :: rest => some rest
    | ' ' :: rest => some rest
    | _ => none
  let (hour, text) ← readField text
  let text ← readMark ':' text
  let (minute, text) ← readField text
  let text ← readMark ':' text
  let (second, text) ← readField text
  let (nanoseconds, text) ← readFraction text
  let (offset, text) ← readZone (Text.trimStart text)
  if !(Text.trimStart text).isEmpty || offset.natAbs ≥ 86400 || !hasYear year ||
      month < 1 || 12 < month || day < 1 || daysInMonth year month < day || 23 < hour ||
      59 < minute || 60 < second then none
  else
    let leap := second == 60
    let secondOfDay : Int := hour * 3600 + minute * 60 + (if leap then 59 else second)
    let instant : Instant := ⟨daysFromDate year month day * 86400 + secondOfDay - offset,
      if leap then nanoseconds + 1000000000 else nanoseconds⟩
    if hasYear instant.year then some instant else none

end Instant

end DeviceKernels
