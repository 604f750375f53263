import DeviceKernels.Text.Hexadecimal
import DeviceKernels.Toml.Document

/-
The reading of TOML text. A line is a header, a name with a value, or empty; a comment may end it.
-/

namespace DeviceKernels.Toml

/-- What is left of a text after a part of it was read. -/
abbrev Rest := List Char

def isBlank (character : Char) : Bool := character == ' ' || character == '\t'

/-- Whether a character may stand for itself in a comment or a quoted text. -/
def isPlain (character : Char) : Bool :=
  character == '\t' || (32 ≤ character.toNat && character.toNat != 127)

def skipBlank : Rest → Rest := List.dropWhile isBlank

def readLineBreak : Rest → Option Rest
  | '\n' :: rest => some rest
  | '\r' :: '\n' :: rest => some rest
  | _ => none

/-- Reads the end of a line, with a comment before it. -/
def endLine (source : Rest) : Option Rest :=
  let source := match skipBlank source with
    | '#' :: rest => rest.dropWhile isPlain
    | rest => rest
  if source.isEmpty then some [] else readLineBreak source

/-- Skips blanks and line breaks, and comments as well where they are allowed. -/
def skipLines (comments inComment : Bool) : Rest → Rest
  | [] => []
  | '\n' :: rest => skipLines comments false rest
  | '\r' :: '\n' :: rest => skipLines comments false rest
  | character :: rest =>
      if (inComment && isPlain character) || (comments && character == '#') then
        skipLines comments true rest
      else if isBlank character then skipLines comments false rest
      else character :: rest

/-- The character whose code is written in exactly so many hexadecimal digits. -/
def readCode (count : Nat) (source : Rest) : Option (Char × Rest) := do
  let digits := source.take count
  let code ← Text.hexNumber? digits
  if digits.length == count && (code < 0xD800 || (0xE000 ≤ code && code < 0x110000)) then
    some (Char.ofNat code, source.drop count)
  else none

/-- The character of an escape after its backslash. -/
def readEscape : Rest → Option (Char × Rest)
  | 'b' :: rest => some (Char.ofNat 8, rest)
  | 't' :: rest => some ('\t', rest)
  | 'n' :: rest => some ('\n', rest)
  | 'f' :: rest => some (Char.ofNat 12, rest)
  | 'r' :: rest => some ('\r', rest)
  | '"' :: rest => some ('"', rest)
  | '\\' :: rest => some ('\\', rest)
  | 'u' :: rest => readCode 4 rest
  | 'U' :: rest => readCode 8 rest
  | _ => none

/-- The delimiters of texts. Escapes have a meaning between double quotes only, and line breaks
stand only between triple quotes. -/
structure Quotes where
  mark : Char
  escapes : Bool
  triple : Bool
  deriving DecidableEq, Repr

/-- An escape after its backslash: a character, or a line break that vanishes together with the
blanks and line breaks around it. -/
def readEscaped (quotes : Quotes) (source : Rest) : Option (List Char × Rest) :=
  match readLineBreak (skipBlank source) with
  | some rest =>
      if quotes.triple then some ([], skipLines false false rest) else none
  | none => (readEscape source).map fun (character, rest) => ([character], rest)

/-- The characters up to the closing mark; the fuel bounds the length of the text. A triple mark
may have two more marks before it, which belong to the text. -/
def readQuoted (quotes : Quotes) : (fuel : Nat) → List Char → Rest → Option (String × Rest)
  | 0, _, _ => none
  | _ + 1, _, [] => none
  | fuel + 1, read, character :: rest =>
      if character == quotes.mark then
        if !quotes.triple then some (String.ofList read.reverse, rest)
        else
          let more := (rest.takeWhile (· == quotes.mark)).length
          let after := rest.drop more
          if more < 2 then
            readQuoted quotes fuel (List.replicate (more + 1) quotes.mark ++ read) after
          else if more ≤ 4 then
            some (String.ofList (List.replicate (more - 2) quotes.mark ++ read).reverse, after)
          else none
      else if quotes.escapes && character == '\\' then do
        let (characters, rest) ← readEscaped quotes rest
        readQuoted quotes fuel (characters ++ read) rest
      else
        match readLineBreak (character :: rest) with
        | some rest => if quotes.triple then readQuoted quotes fuel ('\n' :: read) rest else none
        | none =>
            if isPlain character then readQuoted quotes fuel (character :: read) rest else none

/-- A text on one line. -/
def readLineText (source : Rest) : Option (String × Rest) :=
  match source with
  | '"' :: rest => readQuoted ⟨'"', true, false⟩ source.length [] rest
  | '\'' :: rest => readQuoted ⟨'\'', false, false⟩ source.length [] rest
  | _ => none

/-- A text. A line break right after a triple mark does not belong to it. -/
def readText (source : Rest) : Option (String × Rest) :=
  match source with
  | '"' :: '"' :: '"' :: rest =>
      readQuoted ⟨'"', true, true⟩ source.length [] ((readLineBreak rest).getD rest)
  | '\'' :: '\'' :: '\'' :: rest =>
      readQuoted ⟨'\'', false, true⟩ source.length [] ((readLineBreak rest).getD rest)
  | _ => readLineText source

/-- Digits with single underscores between them. -/
def readDigits (isDigit : Char → Bool) (source : Rest) : Option (List Char × Rest) :=
  let isPart (character : Char) : Bool := isDigit character || character == '_'
  let groups := Text.splitAt '_' (source.takeWhile isPart)
  if groups.any List.isEmpty then none else some (groups.flatten, source.dropWhile isPart)

/-- The number that digits denote to a base. -/
def numberOf (base : Nat) (digits : List Char) : Nat :=
  digits.foldl (fun number digit => base * number + (Text.hexValue? digit).getD 0) 0

/-- An integer in the range of 64 bits. -/
def bounded (value : Int) (rest : Rest) : Option (Int × Rest) :=
  if Int64.minValue.toInt ≤ value ∧ value ≤ Int64.maxValue.toInt then some (value, rest) else none

/-- A decimal number without a leading zero. -/
def readDecimal (source : Rest) : Option (Nat × Rest) := do
  let (digits, rest) ← readDigits Text.isDigit source
  if digits.head? == some '0' && digits.length != 1 then none
  else some (numberOf 10 digits, rest)

/-- A number to a base, after the mark of the base. -/
def readBased (base : Nat) (source : Rest) : Option (Int × Rest) := do
  let isDigit (character : Char) : Bool := (Text.hexValue? character).any (· < base)
  let (digits, rest) ← readDigits isDigit source
  bounded (numberOf base digits) rest

/-- An integer. Only a decimal one has a sign. -/
def readInteger : Rest → Option (Int × Rest)
  | '0' :: 'x' :: rest => readBased 16 rest
  | '0' :: 'o' :: rest => readBased 8 rest
  | '0' :: 'b' :: rest => readBased 2 rest
  | '-' :: rest => do
      let (number, rest) ← readDecimal rest
      bounded (-(number : Int)) rest
  | '+' :: rest => do
      let (number, rest) ← readDecimal rest
      bounded number rest
  | source => do
      let (number, rest) ← readDecimal source
      bounded number rest

def isNameCharacter (character : Char) : Bool :=
  character.isAlphanum || character == '_' || character == '-'

def readNamePart (source : Rest) : Option (String × Rest) :=
  let bare := source.takeWhile isNameCharacter
  if bare.isEmpty then readLineText source
  else some (String.ofList bare, source.dropWhile isNameCharacter)

/-- A name with dots between its parts, and the text after the blanks that follow it. -/
def readName : (fuel : Nat) → Rest → Option (List String × Rest)
  | 0, _ => none
  | fuel + 1, source => do
      let (part, rest) ← readNamePart (skipBlank source)
      match skipBlank rest with
      | '.' :: rest =>
          let (parts, rest) ← readName fuel rest
          some (part :: parts, rest)
      | rest => some ([part], rest)

mutual

/-- One value; the fuel bounds the length of the text. -/
def readValue : (fuel : Nat) → Rest → Option (Toml × Rest)
  | 0, _ => none
  | fuel + 1, source =>
      match source with
      | 't' :: 'r' :: 'u' :: 'e' :: rest => some (.boolean true, rest)
      | 'f' :: 'a' :: 'l' :: 's' :: 'e' :: rest => some (.boolean false, rest)
      | '[' :: rest => (readItems fuel rest).map fun (items, rest) => (.array items, rest)
      | '\x7b' :: rest =>
          match skipBlank rest with
          | '\x7d' :: rest => some (.table [], rest)
          | rest => (readFields fuel .empty rest).map fun (document, rest) =>
              (document.toValue, rest)
      | '"' :: _ => (readText source).map fun (value, rest) => (.text value, rest)
      | '\'' :: _ => (readText source).map fun (value, rest) => (.text value, rest)
      | _ => (readInteger source).map fun (value, rest) => (.integer value, rest)

/-- The items of an array up to its closing bracket. A comma may follow the last one. -/
def readItems : (fuel : Nat) → Rest → Option (List Toml × Rest)
  | 0, _ => none
  | fuel + 1, source =>
      match skipLines true false source with
      | ']' :: rest => some ([], rest)
      | source => do
          let (item, rest) ← readValue fuel source
          match skipLines true false rest with
          | ',' :: rest =>
              let (items, rest) ← readItems fuel rest
              some (item :: items, rest)
          | ']' :: rest => some ([item], rest)
          | _ => none

/-- The fields of a table on one line up to its closing brace. -/
def readFields : (fuel : Nat) → Document → Rest → Option (Document × Rest)
  | 0, _, _ => none
  | fuel + 1, document, source => do
      let (name, value, rest) ← readField fuel source
      let document ← document.insert [] name value
      match skipBlank rest with
      | ',' :: rest => readFields fuel document rest
      | '\x7d' :: rest => some (document, rest)
      | _ => none

/-- A name, an equals sign and a value. -/
def readField : (fuel : Nat) → Rest → Option (List String × Toml × Rest)
  | 0, _ => none
  | fuel + 1, source => do
      match ← readName (source.length + 1) source with
      | (name, '=' :: rest) =>
          let (value, rest) ← readValue fuel (skipBlank rest)
          some (name, value, rest)
      | _ => none

end

/-- The lines of a document, which add to the table at a path; the fuel bounds their number. -/
def readLines : (fuel : Nat) → Document → (path : List String) → Rest → Option Document
  | 0, _, _, _ => none
  | fuel + 1, document, path, source =>
      match skipBlank source with
      | [] => some document
      | '[' :: rest => do
          match ← readName (rest.length + 1) rest with
          | (path, ']' :: rest) =>
              readLines fuel (← document.openTable path) path (← endLine rest)
          | _ => none
      | source =>
          match endLine source with
          | some rest => readLines fuel document path rest
          | none => do
              let (name, value, rest) ← readField (2 * source.length + 2) source
              readLines fuel (← document.insert path name value) path (← endLine rest)

/-- Reads a document, which may begin with a byte order mark. -/
def parse? (source : String) : Option Toml :=
  let source := match source.toList with
    | first :: rest => if first.toNat == 0xFEFF then rest else first :: rest
    | [] => []
  (readLines (source.length + 1) .empty [] source).map Document.toValue

end DeviceKernels.Toml
