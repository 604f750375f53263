import DeviceKernels.Json.Value

/-
A value that is read is nested at most 127 levels deep, its numbers are in the range of double
precision and its escapes are characters; the values of other fields only have to be well formed.
-/

namespace DeviceKernels.Json

/-- What is left of a text after a part of it was read. -/
abbrev Rest := List Char

def skipBlank : Rest → Rest :=
  List.dropWhile fun character =>
    character == ' ' || character == '\n' || character == '\t' || character == '\r'

/-- Four hexadecimal digits. -/
def readUnit : Rest → Option (Nat × Rest)
  | first :: second :: third :: fourth :: rest => do
      some (← Text.hexNumber? [first, second, third, fourth], rest)
  | _ => none

def isHighSurrogate (unit : Nat) : Bool := 0xD800 ≤ unit && unit < 0xDC00

def isLowSurrogate (unit : Nat) : Bool := 0xDC00 ≤ unit && unit < 0xE000

/-- The character of an escape after its backslash. A high surrogate needs a low one after it. -/
def readEscape : Rest → Option (Char × Rest)
  | 'u' :: rest => do
      let (unit, rest) ← readUnit rest
      if isLowSurrogate unit then none
      else if isHighSurrogate unit then
        match rest with
        | '\\' :: 'u' :: rest => do
            let (low, rest) ← readUnit rest
            if isLowSurrogate low then
              some (Char.ofNat (0x10000 + (unit - 0xD800) * 0x400 + (low - 0xDC00)), rest)
            else none
        | _ => none
      else some (Char.ofNat unit, rest)
  | 'n' :: rest => some ('\n', rest)
  | 't' :: rest => some ('\t', rest)
  | 'r' :: rest => some ('\r', rest)
  | 'b' :: rest => some (Char.ofNat 8, rest)
  | 'f' :: rest => some (Char.ofNat 12, rest)
  | '/' :: rest => some ('/', rest)
  | '\\' :: rest => some ('\\', rest)
  | '"' :: rest => some ('"', rest)
  | _ => none

/-- The characters up to the closing quote; the fuel bounds their number. -/
def readQuoted : (fuel : Nat) → List Char → Rest → Option (String × Rest)
  | 0, _, _ => none
  | _ + 1, _, [] => none
  | fuel + 1, read, character :: rest =>
      if character == '"' then some (String.ofList read.reverse, rest)
      else if character == '\\' then do
        let (escaped, rest) ← readEscape rest
        readQuoted fuel (escaped :: read) rest
      else if character.toNat < 32 then none
      else readQuoted fuel (character :: read) rest

/-- The digits at the start of a text. -/
def readDigits (source : Rest) : List Char × Rest :=
  (source.takeWhile Text.isDigit, source.dropWhile Text.isDigit)

/-- An exponent after its letter. -/
def readExponent (source : Rest) : Option (Int × Rest) :=
  let (negative, source) := match source with
    | '-' :: rest => (true, rest)
    | '+' :: rest => (false, rest)
    | _ => (false, source)
  let (digits, rest) := readDigits source
  if digits.isEmpty then none
  else
    let magnitude : Int := Text.ofDigits digits
    some (if negative then -magnitude else magnitude, rest)

/-- Whether a decimal is in range: a value with more than 309 digits before the point is not. -/
def decimalInRange (digits : Nat) (exponent : Int) : Bool :=
  digits == 0 || ((Nat.toDigits 10 digits).length : Int) + exponent ≤ 308 ||
    (((Nat.toDigits 10 digits).length : Int) + exponent == 309 &&
      digits * Nat.pow 10 exponent.toNat <
        (Nat.pow 2 1024 - Nat.pow 2 970) * Nat.pow 10 (-exponent).toNat)

/-- A number of any size. The integer part has no leading zero, and a point has digits after it. -/
def readNumeral (source : Rest) : Option (Json × Rest) := do
  let (negative, source) := match source with
    | '-' :: rest => (true, rest)
    | _ => (false, source)
  let (whole, source) := readDigits source
  if whole.isEmpty || (whole.head? == some '0' && whole.length != 1) then none
  else
    let (fraction, hasFraction, source) := match source with
      | '.' :: rest =>
          let (digits, rest) := readDigits rest
          (digits, true, rest)
      | _ => ([], false, source)
    if hasFraction && fraction.isEmpty then none
    else
      let (exponent, hasExponent, source) ← match source with
        | 'e' :: rest => (readExponent rest).map fun (exponent, rest) => (exponent, true, rest)
        | 'E' :: rest => (readExponent rest).map fun (exponent, rest) => (exponent, true, rest)
        | _ => some (0, false, source)
      let digits := Text.ofDigits (whole ++ fraction)
      if !hasFraction && !hasExponent && !(negative && digits == 0) then
        some (.integer (if negative then -(digits : Int) else digits), source)
      else some (.decimal negative digits (exponent - fraction.length), source)

/-- A number that is an integer or a decimal in range. -/
def readNumber (source : Rest) : Option (Json × Rest) :=
  match readNumeral source with
  | some (.decimal negative digits exponent, rest) =>
      if decimalInRange digits exponent then some (.decimal negative digits exponent, rest) else none
  | read => read

/-- The name of a field and the colon after it. -/
def readName (source : Rest) : Option (String × Rest) :=
  match skipBlank source with
  | '"' :: rest => do
      let (name, rest) ← readQuoted (rest.length + 1) [] rest
      match skipBlank rest with
      | ':' :: rest => some (name, rest)
      | _ => none
  | _ => none

mutual

/-- One value; the fuel bounds the length of the text and `depth` the levels still allowed. -/
def readValue : (fuel depth : Nat) → Rest → Option (Json × Rest)
  | 0, _, _ => none
  | fuel + 1, depth, source =>
      match skipBlank source with
      | 'n' :: 'u' :: 'l' :: 'l' :: rest => some (.null, rest)
      | 't' :: 'r' :: 'u' :: 'e' :: rest => some (.boolean true, rest)
      | 'f' :: 'a' :: 'l' :: 's' :: 'e' :: rest => some (.boolean false, rest)
      | '"' :: rest => (readQuoted (rest.length + 1) [] rest).map fun (value, rest) =>
          (.text value, rest)
      | '[' :: rest =>
          if depth ≤ 1 then none
          else
            match skipBlank rest with
            | ']' :: rest => some (.array [], rest)
            | rest => (readItems fuel (depth - 1) rest).map fun (items, rest) =>
                (.array items, rest)
      | '\x7b' :: rest =>
          if depth ≤ 1 then none
          else
            match skipBlank rest with
            | '\x7d' :: rest => some (.object [], rest)
            | rest => (readFields fuel (depth - 1) rest).map fun (fields, rest) =>
                (.object fields, rest)
      | source => readNumber source

/-- The items of an array up to its closing bracket. -/
def readItems : (fuel depth : Nat) → Rest → Option (List Json × Rest)
  | 0, _, _ => none
  | fuel + 1, depth, source => do
      let (item, source) ← readValue fuel depth source
      match skipBlank source with
      | ',' :: rest =>
          let (items, rest) ← readItems fuel depth rest
          some (item :: items, rest)
      | ']' :: rest => some ([item], rest)
      | _ => none

/-- The fields of an object up to its closing brace. -/
def readFields : (fuel depth : Nat) → Rest → Option (List (String × Json) × Rest)
  | 0, _, _ => none
  | fuel + 1, depth, source => do
      let (name, rest) ← readName source
      let (value, rest) ← readValue fuel depth rest
      match skipBlank rest with
      | ',' :: rest =>
          let (fields, rest) ← readFields fuel depth rest
          some ((name, value) :: fields, rest)
      | '\x7d' :: rest => some ([(name, value)], rest)
      | _ => none

end

/-- What is left after an escape, which may be half of a pair. -/
def skipEscape : Rest → Option Rest
  | 'u' :: rest => (readUnit rest).map Prod.snd
  | character :: rest =>
      if ['n', 't', 'r', 'b', 'f', '/', '\\', '"'].contains character then some rest else none
  | [] => none

def skipQuoted : (fuel : Nat) → Rest → Option Rest
  | 0, _ => none
  | _ + 1, [] => none
  | fuel + 1, character :: rest =>
      if character == '"' then some rest
      else if character == '\\' then do
        let rest ← skipEscape rest
        skipQuoted fuel rest
      else if character.toNat < 32 then none
      else skipQuoted fuel rest

mutual

/-- What is left after a value of any depth, whose numbers may be out of range. -/
def skipValue : (fuel : Nat) → Rest → Option Rest
  | 0, _ => none
  | fuel + 1, source =>
      match skipBlank source with
      | 'n' :: 'u' :: 'l' :: 'l' :: rest => some rest
      | 't' :: 'r' :: 'u' :: 'e' :: rest => some rest
      | 'f' :: 'a' :: 'l' :: 's' :: 'e' :: rest => some rest
      | '"' :: rest => skipQuoted (rest.length + 1) rest
      | '[' :: rest =>
          match skipBlank rest with
          | ']' :: rest => some rest
          | rest => skipItems fuel rest
      | '\x7b' :: rest =>
          match skipBlank rest with
          | '\x7d' :: rest => some rest
          | rest => skipFields fuel rest
      | source => (readNumeral source).map Prod.snd

def skipItems : (fuel : Nat) → Rest → Option Rest
  | 0, _ => none
  | fuel + 1, source => do
      let source ← skipValue fuel source
      match skipBlank source with
      | ',' :: rest => skipItems fuel rest
      | ']' :: rest => some rest
      | _ => none

def skipFields : (fuel : Nat) → Rest → Option Rest
  | 0, _ => none
  | fuel + 1, source =>
      match skipBlank source with
      | '"' :: rest => do
          let rest ← skipQuoted (rest.length + 1) rest
          match skipBlank rest with
          | ':' :: rest =>
              let rest ← skipValue fuel rest
              match skipBlank rest with
              | ',' :: rest => skipFields fuel rest
              | '\x7d' :: rest => some rest
              | _ => none
          | _ => none
      | _ => none

end

/-- The fields of a record up to its closing brace. The value of a field with another name is
skipped. -/
def readRecord (names : List String) :
    (fuel depth : Nat) → Rest → Option (List (String × Json) × Rest)
  | 0, _, _ => none
  | fuel + 1, depth, source => do
      let (name, rest) ← readName source
      let (value, rest) ←
        if names.contains name then readValue fuel depth rest
        else (skipValue fuel rest).map fun rest => (.null, rest)
      match skipBlank rest with
      | ',' :: rest =>
          let (fields, rest) ← readRecord names fuel depth rest
          some ((name, value) :: fields, rest)
      | '\x7d' :: rest => some ([(name, value)], rest)
      | _ => none

/-- A text as a record of the fields with the names, which may be written as an array. -/
def parseRecord? (names : List String) (source : String) : Option Json := do
  let characters := source.toList
  let (value, rest) ← match skipBlank characters with
    | '\x7b' :: rest =>
        match skipBlank rest with
        | '\x7d' :: rest => some (.object [], rest)
        | rest => (readRecord names characters.length 127 rest).map fun (fields, rest) =>
            (.object fields, rest)
    | source => readValue (characters.length + 1) 128 source
  if (skipBlank rest).isEmpty then some value else none

end DeviceKernels.Json
