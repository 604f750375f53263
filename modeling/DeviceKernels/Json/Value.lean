import DeviceKernels.Text.Hexadecimal
import DeviceKernels.Text.Numeral

namespace DeviceKernels

/-- A number without fraction or exponent is an integer; any other is `digits * 10 ^ exponent`
with a sign. Fields keep their order, and a reader keeps repeated names. -/
inductive Json where
  | null
  | boolean (value : Bool)
  | integer (value : Int)
  | decimal (negative : Bool) (digits : Nat) (exponent : Int)
  | text (value : String)
  | array (items : List Json)
  | object (fields : List (String × Json))
  deriving Inhabited

namespace Json

def ofNat (number : Nat) : Json := .integer number

def ofTexts (texts : List String) : Json := .array (texts.map .text)

def ofOption {Value : Type} (encode : Value → Json) : Option Value → Json
  | none => .null
  | some value => encode value

/-- Quotes, backslashes and control characters are escaped; everything else stands for itself. -/
def escape (character : Char) : List Char :=
  if character == '"' then ['\\', '"']
  else if character == '\\' then ['\\', '\\']
  else if character == '\n' then ['\\', 'n']
  else if character == '\r' then ['\\', 'r']
  else if character == '\t' then ['\\', 't']
  else if character.toNat == 8 then ['\\', 'b']
  else if character.toNat == 12 then ['\\', 'f']
  else if character.toNat < 32 then
    ['\\', 'u', '0', '0', Text.hexDigit (character.toNat / 16),
      Text.hexDigit (character.toNat % 16)]
  else [character]

def quote (text : String) : String :=
  String.ofList ('"' :: (text.toList.flatMap escape ++ ['"']))

def renderDecimal (negative : Bool) (digits : Nat) (exponent : Int) : String :=
  (if negative then "-" else "") ++ Text.decimal digits ++ "e" ++ Text.signedDecimal exponent

mutual

/-- The form without spaces. -/
def compact : Json → String
  | .null => "null"
  | .boolean value => if value then "true" else "false"
  | .integer value => Text.signedDecimal value
  | .decimal negative digits exponent => renderDecimal negative digits exponent
  | .text value => quote value
  | .array items => "[" ++ Text.join "," (compactItems items) ++ "]"
  | .object fields => "\x7b" ++ Text.join "," (compactFields fields) ++ "\x7d"

def compactItems : List Json → List String
  | [] => []
  | item :: rest => compact item :: compactItems rest

def compactFields : List (String × Json) → List String
  | [] => []
  | (name, value) :: rest => (quote name ++ ":" ++ compact value) :: compactFields rest

end

/-- The line break before an entry at a level. -/
def lineBreak (level : Nat) : String := String.ofList ('\n' :: List.replicate (2 * level) ' ')

mutual

/-- The form with one entry a line; an empty array or object stays on one line. -/
def indented (level : Nat) : Json → String
  | .array [] => "[]"
  | .array items =>
      "[" ++ lineBreak (level + 1) ++
        Text.join ("," ++ lineBreak (level + 1)) (indentedItems (level + 1) items) ++
        lineBreak level ++ "]"
  | .object [] => "\x7b\x7d"
  | .object fields =>
      "\x7b" ++ lineBreak (level + 1) ++
        Text.join ("," ++ lineBreak (level + 1)) (indentedFields (level + 1) fields) ++
        lineBreak level ++ "\x7d"
  | .null => "null"
  | .boolean value => if value then "true" else "false"
  | .integer value => Text.signedDecimal value
  | .decimal negative digits exponent => renderDecimal negative digits exponent
  | .text value => quote value

def indentedItems (level : Nat) : List Json → List String
  | [] => []
  | item :: rest => indented level item :: indentedItems level rest

def indentedFields (level : Nat) : List (String × Json) → List String
  | [] => []
  | (name, value) :: rest => (quote name ++ ": " ++ indented level value) ::
      indentedFields level rest

end

def pretty (value : Json) : String := indented 0 value

mutual

/-- The value with the fields of every object in the order of their names. -/
def sorted : Json → Json
  | .array items => .array (sortedItems items)
  | .object fields => .object
      ((sortedFields fields).mergeSort fun first second => first.1 ≤ second.1)
  | other => other

def sortedItems : List Json → List Json
  | [] => []
  | item :: rest => sorted item :: sortedItems rest

def sortedFields : List (String × Json) → List (String × Json)
  | [] => []
  | (name, value) :: rest => (name, sorted value) :: sortedFields rest

end

/-- The value of a field; of repeated fields the last one counts. -/
def field? (name : String) : Json → Option Json
  | .object fields => (fields.reverse.find? fun entry => entry.1 == name).map Prod.snd
  | _ => none

end Json

end DeviceKernels
