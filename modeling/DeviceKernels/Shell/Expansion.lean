import DeviceKernels.Shell.Script

namespace DeviceKernels.Shell

/-- What words are expanded with. -/
structure Surroundings where
  bindings : List (String × String)
  program : String
  arguments : List String
  status : Nat
  /-- The output of the script in a substitution. -/
  substitute : List Char → String

namespace Surroundings

def value (surroundings : Surroundings) (name : String) : String :=
  if name == "#" then Text.decimal surroundings.arguments.length
  else if name == "?" then Text.decimal surroundings.status
  else if name == "@" || name == "*" then Text.join " " surroundings.arguments
  else if name == "0" then surroundings.program
  else if name != "" && name.toList.all Text.isDigit then
    (surroundings.arguments[Text.ofDigits name.toList - 1]?).getD ""
  else (surroundings.bindings.lookup name).getD ""

end Surroundings

/-- Reads an optional sign and digits, with blanks around them. -/
def readInteger? (text : String) : Option Int :=
  let digitsOf (characters : List Char) : Option Int :=
    if characters.isEmpty || !characters.all Text.isDigit then none
    else some (Text.ofDigits characters)
  match (Text.trim text).toList with
  | '-' :: rest => (digitsOf rest).map (- ·)
  | '+' :: rest => digitsOf rest
  | characters => digitsOf characters

/-- The binary operators of one level of precedence, the loosest level first. -/
def operatorLevels : List (List (String × (Int → Int → Int))) :=
  let truth (holds : Bool) : Int := if holds then 1 else 0
  [[("==", fun a b => truth (a == b)), ("!=", fun a b => truth (a != b))],
    [("<=", fun a b => truth (a ≤ b)), (">=", fun a b => truth (b ≤ a)),
      ("<", fun a b => truth (a < b)), (">", fun a b => truth (b < a))],
    [("+", (· + ·)), ("-", (· - ·))],
    [("*", (· * ·)), ("/", Int.tdiv), ("%", Int.tmod)]]

def skipSpace : List Char → List Char := List.dropWhile Char.isWhitespace

/-- The operator at the start of a text. -/
def readOperator (operators : List (String × (Int → Int → Int))) (source : List Char) :
    Option ((Int → Int → Int) × List Char) :=
  (operators.find? fun operator => operator.1.toList.isPrefixOf source).map
    fun operator => (operator.2, source.drop operator.1.length)

mutual

def readPrimary (surroundings : Surroundings) : (fuel : Nat) → List Char →
    Option (Int × List Char)
  | 0, _ => none
  | fuel + 1, source =>
      match skipSpace source with
      | '(' :: rest => do
          let (value, rest) ← readLevels surroundings fuel operatorLevels rest
          match skipSpace rest with
          | ')' :: rest => some (value, rest)
          | _ => none
      | '-' :: rest => (readPrimary surroundings fuel rest).map fun (value, rest) =>
          (-value, rest)
      | '$' :: rest => readPrimary surroundings fuel rest
      | character :: rest =>
          let word := (character :: rest).takeWhile isNameRest
          let after := (character :: rest).dropWhile isNameRest
          if word.isEmpty then none
          else if word.all Text.isDigit then some (Text.ofDigits word, after)
          else some ((readInteger? (surroundings.value (String.ofList word))).getD 0, after)
      | [] => none

def readLevels (surroundings : Surroundings) : (fuel : Nat) →
    List (List (String × (Int → Int → Int))) → List Char → Option (Int × List Char)
  | 0, _, _ => none
  | fuel + 1, [], source => readPrimary surroundings fuel source
  | fuel + 1, operators :: tighter, source => do
      let (first, rest) ← readLevels surroundings fuel tighter source
      readOperands surroundings fuel operators tighter first rest

def readOperands (surroundings : Surroundings) : (fuel : Nat) →
    List (String × (Int → Int → Int)) → List (List (String × (Int → Int → Int))) → Int →
    List Char → Option (Int × List Char)
  | 0, _, _, _, _ => none
  | fuel + 1, operators, tighter, first, source =>
      match readOperator operators (skipSpace source) with
      | some (apply, rest) => do
          let (second, rest) ← readLevels surroundings fuel tighter rest
          readOperands surroundings fuel operators tighter (apply first second) rest
      | none => some (first, source)

end

/-- The value of an expression; one that cannot be read is zero. -/
def evaluate (surroundings : Surroundings) (expression : List Char) : Int :=
  match readLevels surroundings (8 * expression.length + 8) operatorLevels expression with
  | some (value, _) => value
  | none => 0

/-- Finished fields and the one that further text extends. -/
structure Fields where
  finished : List String
  current : Option String

namespace Fields

def extend (fields : Fields) (text : String) : Fields :=
  { fields with current := some (fields.current.getD "" ++ text) }

def cut (fields : Fields) : Fields :=
  match fields.current with
  | none => fields
  | some text => ⟨fields.finished ++ [text], none⟩

/-- Text that blanks divide into fields. -/
def extendSplit (fields : Fields) (text : String) : Fields :=
  text.toList.foldl
    (fun fields character =>
      if " \t\n".toList.contains character then fields.cut
      else fields.extend (String.singleton character))
    fields

end Fields

def pieceValue (surroundings : Surroundings) : Piece → String
  | .text _ value => value
  | .parameter _ name => surroundings.value name
  | .arithmetic _ expression => Text.signedDecimal (evaluate surroundings expression)
  | .substitution _ script => surroundings.substitute script

def expandPiece (surroundings : Surroundings) (fields : Fields) (piece : Piece) : Fields :=
  match piece with
  | .parameter true "@" =>
      match surroundings.arguments with
      | [] => fields
      | first :: rest => rest.foldl (fun fields text => fields.cut.extend text) (fields.extend first)
  | .text _ value => fields.extend value
  | .parameter true _ => fields.extend (pieceValue surroundings piece)
  | .arithmetic true _ => fields.extend (pieceValue surroundings piece)
  | .substitution true _ => fields.extend (pieceValue surroundings piece)
  | _ => fields.extendSplit (pieceValue surroundings piece)

/-- The fields of words. -/
def expand (surroundings : Surroundings) (words : List Word) : List String :=
  words.flatMap fun word => (word.foldl (expandPiece surroundings) ⟨[], none⟩).cut.finished

/-- The expansion of a word to one text. -/
def expandWhole (surroundings : Surroundings) (word : Word) : String :=
  String.join (word.map (pieceValue surroundings))

end DeviceKernels.Shell
