import DeviceKernels.Text.Blank

namespace DeviceKernels.Text

def isDigit (character : Char) : Bool := '0' ≤ character && character ≤ '9'

def digitValue (digit : Char) : Nat := digit.toNat - '0'.toNat

/-- The number that decimal digits denote, the most significant digit first. -/
def ofDigits (digits : List Char) : Nat :=
  digits.foldl (fun number digit => 10 * number + digitValue digit) 0

/-- A number is written with the fewest digits. -/
def decimal (number : Nat) : String := Nat.repr number

def signedDecimal (number : Int) : String :=
  if number < 0 then "-" ++ decimal number.natAbs else decimal number.natAbs

/-- A natural number of at least `width` digits, with leading zeros. -/
def paddedDecimal (width number : Nat) : String :=
  let digits := Nat.toDigits 10 number
  String.ofList (List.replicate (width - digits.length) '0' ++ digits)

/-- Reads an optional plus sign and digits that denote a number up to `limit`. -/
def readNatural? (limit : Nat) (text : String) : Option Nat :=
  let digits := match text.toList with
    | '+' :: rest => rest
    | characters => characters
  if digits.isEmpty || !digits.all isDigit then none
  else if ofDigits digits ≤ limit then some (ofDigits digits) else none

/-- The text in a column of at least `width` characters, aligned to the left. -/
def padRight (width : Nat) (text : String) : String :=
  String.ofList (text.toList ++ List.replicate (width - text.toList.length) ' ')

/-- The text in a column of at least `width` characters, aligned to the right. -/
def padLeft (width : Nat) (text : String) : String :=
  String.ofList (List.replicate (width - text.toList.length) ' ' ++ text.toList)

def join (separator : String) (parts : List String) : String := separator.intercalate parts

/-- A bracketed list of numbers with a comma and a space between them. -/
def bracketed (numbers : List Nat) : String := "[" ++ join ", " (numbers.map decimal) ++ "]"

/-- ASCII letters in lower case; other characters unchanged. -/
def lowerAscii (text : String) : String := String.ofList (text.toList.map Char.toLower)

def startsWith (text beginning : String) : Bool := beginning.toList.isPrefixOf text.toList

def endsWith (text ending : String) : Bool := ending.toList.isSuffixOf text.toList

/-- The first `count` characters. -/
def take (count : Nat) (text : String) : String := String.ofList (text.toList.take count)

/-- Splits at every occurrence of a character; a text without it is one part. -/
def splitAt (separator : Char) : List Char → List (List Char)
  | [] => [[]]
  | character :: rest =>
      if character == separator then [] :: splitAt separator rest
      else
        match splitAt separator rest with
        | [] => [[character]]
        | first :: others => (character :: first) :: others

def split (separator : Char) (text : String) : List String :=
  (splitAt separator text.toList).map String.ofList

end DeviceKernels.Text
