import DeviceKernels.Number.Word
import DeviceKernels.Text.Numeral

/-
The text of shell scripts and the commands that it denotes. Every character of a script stands for
one byte.
-/

namespace DeviceKernels.Shell

/-- One part of a word. A quoted part stays in one piece when it is expanded. -/
inductive Piece where
  | text (quoted : Bool) (value : String)
  | parameter (quoted : Bool) (name : String)
  | arithmetic (quoted : Bool) (expression : List Char)
  | substitution (quoted : Bool) (script : List Char)
  deriving DecidableEq, Repr, Inhabited

abbrev Word := List Piece

inductive Token where
  | word (pieces : Word)
  | operator (symbol : String)
  /-- The beginning of a redirection of a descriptor. -/
  | redirect (descriptor : Nat) (symbol : String)
  deriving DecidableEq, Repr, Inhabited

inductive Redirection where
  | read (target : Word)
  | write (descriptor : Nat) (append : Bool) (target : Word)
  | duplicate (descriptor : Nat) (target : Word)
  deriving DecidableEq, Repr, Inhabited

inductive Command where
  | skip
  | simple (assignments : List (String × Word)) (words : List Word)
      (redirections : List Redirection)
  | sequence (first second : Command)
  | both (first second : Command)
  | either (first second : Command)
  | pipe (first second : Command)
  | negated (command : Command)
  | choice (condition positive negative : Command)
  /-- Repeats while the condition succeeds, or while it fails. -/
  | loop (success : Bool) (condition body : Command)
  /-- Repeats for every field; without a list, for every argument. -/
  | each (name : String) (words : Option (List Word)) (body : Command)
  | redirected (command : Command) (redirections : List Redirection)
  deriving Repr, Inhabited

def isNameStart (character : Char) : Bool :=
  character == '_' || (character.toNat < 128 && character.isAlpha)

def isNameRest (character : Char) : Bool := isNameStart character || Text.isDigit character

def isName (text : String) : Bool :=
  match text.toList with
  | first :: rest => isNameStart first && rest.all isNameRest
  | [] => false

/-- The text up to the bracket that closes it, and the text after that bracket. -/
def readBracketed (opening closing : Char) : (depth : Nat) → List Char →
    Option (List Char × List Char)
  | _, [] => none
  | depth, character :: rest =>
      if character == closing then
        match depth with
        | 0 => some ([], rest)
        | depth + 1 => (readBracketed opening closing depth rest).map fun (inner, after) =>
            (character :: inner, after)
      else
        let deeper := if character == opening then depth + 1 else depth
        (readBracketed opening closing deeper rest).map fun (inner, after) =>
          (character :: inner, after)

/-- What follows a dollar sign. -/
def readDollar (quoted : Bool) : List Char → Option (Piece × List Char)
  | '(' :: '(' :: rest => do
      let (inner, after) ← readBracketed '(' ')' 1 rest
      some (.arithmetic quoted inner.dropLast, after)
  | '(' :: rest => do
      let (inner, after) ← readBracketed '(' ')' 0 rest
      some (.substitution quoted inner, after)
  | '\x7b' :: rest => do
      let (inner, after) ← readBracketed '\x7b' '\x7d' 0 rest
      some (.parameter quoted (String.ofList inner), after)
  | character :: rest =>
      if isNameStart character then
        some (.parameter quoted (String.ofList (character :: rest.takeWhile isNameRest)),
          rest.dropWhile isNameRest)
      else if Text.isDigit character || "@*#?$".toList.contains character then
        some (.parameter quoted (String.singleton character), rest)
      else some (.text quoted "$", character :: rest)
  | [] => some (.text quoted "$", [])

/-- The pieces between double quotes. -/
def readDoubleQuoted : (fuel : Nat) → List Piece → List Char → Option (List Piece × List Char)
  | 0, _, _ => none
  | _ + 1, _, [] => none
  | _ + 1, read, '"' :: rest => some (read, rest)
  | fuel + 1, read, '$' :: rest => do
      let (piece, after) ← readDollar true rest
      readDoubleQuoted fuel (piece :: read) after
  | fuel + 1, read, '\\' :: character :: rest =>
      if character == '\n' then readDoubleQuoted fuel read rest
      else
        let kept := if "$\"\\".toList.contains character || character.toNat == 96 then
          [character] else ['\\', character]
        readDoubleQuoted fuel (.text true (String.ofList kept) :: read) rest
  | fuel + 1, read, character :: rest =>
      readDoubleQuoted fuel (.text true (String.singleton character) :: read) rest

def endsWord (character : Char) : Bool := " \t\n;&|<>()".toList.contains character

/-- The pieces of a word, the last one first, and the text after the word. -/
def readPieces : (fuel : Nat) → List Piece → List Char → Option (List Piece × List Char)
  | 0, _, _ => none
  | _ + 1, read, [] => some (read, [])
  | fuel + 1, read, '\'' :: rest =>
      let inner := rest.takeWhile (· != '\'')
      match rest.drop inner.length with
      | _ :: after => readPieces fuel (.text true (String.ofList inner) :: read) after
      | [] => none
  | fuel + 1, read, '"' :: rest => do
      let (inner, after) ← readDoubleQuoted (rest.length + 1) [] rest
      readPieces fuel ((if inner.isEmpty then [.text true ""] else inner) ++ read) after
  | fuel + 1, read, '$' :: rest => do
      let (piece, after) ← readDollar false rest
      readPieces fuel (piece :: read) after
  | fuel + 1, read, '\\' :: character :: rest =>
      if character == '\n' then readPieces fuel read rest
      else readPieces fuel (.text true (String.singleton character) :: read) rest
  | fuel + 1, read, character :: rest =>
      if endsWord character then some (read, character :: rest)
      else readPieces fuel (.text false (String.singleton character) :: read) rest

/-- Neighbouring texts of one kind as one text. -/
def mergeTexts : List Piece → List Piece
  | .text quoted value :: rest =>
      match mergeTexts rest with
      | .text quoted' value' :: merged =>
          if quoted == quoted' then .text quoted (value ++ value') :: merged
          else .text quoted value :: .text quoted' value' :: merged
      | merged => .text quoted value :: merged
  | piece :: rest => piece :: mergeTexts rest
  | [] => []

/-- The tokens of a text. -/
def tokens : (fuel : Nat) → List Char → Option (List Token)
  | 0, _ => none
  | _ + 1, [] => some []
  | fuel + 1, character :: rest =>
      let continueAfter (token : Token) (after : List Char) :=
        (tokens fuel after).map (token :: ·)
      if character == ' ' || character == '\t' then tokens fuel rest
      else if character == '#' then tokens fuel (rest.dropWhile (· != '\n'))
      else match character :: rest with
        | '\\' :: '\n' :: after => tokens fuel after
        | ';' :: ';' :: _ => none
        | '&' :: '&' :: after => continueAfter (.operator "&&") after
        | '|' :: '|' :: after => continueAfter (.operator "||") after
        | '>' :: '>' :: after => continueAfter (.redirect 1 ">>") after
        | '>' :: '&' :: after => continueAfter (.redirect 1 ">&") after
        | '>' :: after => continueAfter (.redirect 1 ">") after
        | '<' :: after => continueAfter (.redirect 0 "<") after
        | '2' :: '>' :: '>' :: after => continueAfter (.redirect 2 ">>") after
        | '2' :: '>' :: '&' :: after => continueAfter (.redirect 2 ">&") after
        | '2' :: '>' :: after => continueAfter (.redirect 2 ">") after
        | '1' :: '>' :: '>' :: after => continueAfter (.redirect 1 ">>") after
        | '1' :: '>' :: '&' :: after => continueAfter (.redirect 1 ">&") after
        | '1' :: '>' :: after => continueAfter (.redirect 1 ">") after
        | _ =>
            if endsWord character then
              continueAfter (.operator (String.singleton character)) rest
            else do
              let (pieces, after) ← readPieces (rest.length + 2) [] (character :: rest)
              continueAfter (.word (mergeTexts pieces.reverse)) after

/-- The text of a word that is one plain piece. -/
def plainWord? : Word → Option String
  | [.text false value] => some value
  | _ => none

/-- A word that sets a variable. -/
def assignment? : Word → Option (String × Word)
  | .text false value :: rest =>
      let name := value.toList.takeWhile (· != '=')
      match value.toList.drop name.length with
      | _ :: initial =>
          if isName (String.ofList name) then
            some (String.ofList name, .text false (String.ofList initial) :: rest)
          else none
      | [] => none
  | _ => none

def reservedWords : List String :=
  ["then", "else", "elif", "fi", "do", "done", "\x7d"]

def skipBreaks : List Token → List Token :=
  List.dropWhile fun token => token == .operator "\n" || token == .operator ";"

def skipNewlines : List Token → List Token := List.dropWhile (· == .operator "\n")

/-- Takes one reserved word. -/
def expect (word : String) (source : List Token) : Option (List Token) :=
  match skipBreaks source with
  | .word pieces :: rest => if plainWord? pieces == some word then some rest else none
  | _ => none

def readRedirection : List Token → Option (Redirection × List Token)
  | .redirect descriptor symbol :: .word target :: rest =>
      let redirection := match symbol with
        | "<" => .read target
        | ">&" => .duplicate descriptor target
        | symbol => .write descriptor (symbol == ">>") target
      some (redirection, rest)
  | _ => none

def readRedirections : (fuel : Nat) → List Token → List Redirection × List Token
  | 0, source => ([], source)
  | fuel + 1, source =>
      match readRedirection source with
      | some (redirection, rest) =>
          let (others, after) := readRedirections fuel rest
          (redirection :: others, after)
      | none => ([], source)

/-- The rest of a simple command after some of its parts. -/
def readSimple : (fuel : Nat) → List (String × Word) → List Word → List Redirection →
    List Token → Option (Command × List Token)
  | 0, _, _, _, _ => none
  | fuel + 1, assignments, words, redirections, source =>
      match source with
      | .word pieces :: rest =>
          match words, assignment? pieces with
          | [], some assignment =>
              readSimple fuel (assignment :: assignments) words redirections rest
          | _, _ => readSimple fuel assignments (pieces :: words) redirections rest
      | .redirect .. :: _ => do
          let (redirection, rest) ← readRedirection source
          readSimple fuel assignments words (redirection :: redirections) rest
      | _ => some (.simple assignments.reverse words.reverse redirections.reverse, source)

/-- The words up to the end of a line. -/
def readWords : List Token → List Word × List Token
  | .word pieces :: rest =>
      let (words, after) := readWords rest
      (pieces :: words, after)
  | source => ([], source)

mutual

/-- Commands up to a reserved word, a closing bracket or the end. -/
def readList : (fuel : Nat) → List Token → Option (Command × List Token)
  | 0, _ => none
  | fuel + 1, source =>
      match skipBreaks source with
      | [] => some (.skip, [])
      | .operator ")" :: rest => some (.skip, .operator ")" :: rest)
      | .word pieces :: rest =>
          if ((plainWord? pieces).any fun word => reservedWords.contains word) then
            some (.skip, .word pieces :: rest)
          else do
            let (first, after) ← readChain fuel (.word pieces :: rest)
            let (others, after) ← readList fuel after
            some (.sequence first others, after)
      | start => do
          let (first, after) ← readChain fuel start
          let (others, after) ← readList fuel after
          some (.sequence first others, after)

/-- Pipelines joined by conditions, grouped from the left. -/
def readChain : (fuel : Nat) → List Token → Option (Command × List Token)
  | 0, _ => none
  | fuel + 1, source => do
      let (first, after) ← readPipeline fuel source
      readChainAfter fuel first after

def readChainAfter : (fuel : Nat) → Command → List Token → Option (Command × List Token)
  | 0, _, _ => none
  | fuel + 1, first, .operator "&&" :: rest => do
      let (second, after) ← readPipeline fuel (skipNewlines rest)
      readChainAfter fuel (.both first second) after
  | fuel + 1, first, .operator "||" :: rest => do
      let (second, after) ← readPipeline fuel (skipNewlines rest)
      readChainAfter fuel (.either first second) after
  | _ + 1, first, source => some (first, source)

def readPipeline : (fuel : Nat) → List Token → Option (Command × List Token)
  | 0, _ => none
  | fuel + 1, source =>
      match expect "!" source with
      | some rest => (readPipeline fuel rest).map fun (command, after) =>
          (.negated command, after)
      | none => do
          let (first, after) ← readCommand fuel source
          match after with
          | .operator "|" :: rest => do
              let (second, after) ← readPipeline fuel (skipNewlines rest)
              some (.pipe first second, after)
          | _ => some (first, after)

/-- The branches of a choice after its first word. -/
def readChoice : (fuel : Nat) → List Token → Option (Command × List Token)
  | 0, _ => none
  | fuel + 1, source => do
      let (condition, after) ← readList fuel source
      let (positive, after) ← readList fuel (← expect "then" after)
      match expect "elif" after, expect "else" after with
      | some rest, _ => do
          let (negative, after) ← readChoice fuel rest
          some (.choice condition positive negative, after)
      | none, some rest => do
          let (negative, after) ← readList fuel rest
          some (.choice condition positive negative, ← expect "fi" after)
      | none, none => some (.choice condition positive .skip, ← expect "fi" after)

def readBody : (fuel : Nat) → List Token → Option (Command × List Token)
  | 0, _ => none
  | fuel + 1, source => do
      let (body, after) ← readList fuel (← expect "do" source)
      some (body, ← expect "done" after)

def readCommand : (fuel : Nat) → List Token → Option (Command × List Token)
  | 0, _ => none
  | fuel + 1, source =>
      let withRedirections : Command × List Token → Option (Command × List Token) :=
        fun (command, after) =>
          match readRedirections after.length after with
          | ([], after) => some (command, after)
          | (redirections, after) => some (.redirected command redirections, after)
      match source with
      | .operator "(" :: rest => do
          let (inner, after) ← readList fuel rest
          match after with
          | .operator ")" :: after => withRedirections (.pipe .skip inner, after)
          | _ => none
      | .word pieces :: rest =>
          match plainWord? pieces with
          | some "if" => do withRedirections (← readChoice fuel rest)
          | some "while" => do
              let (condition, after) ← readList fuel rest
              let (body, after) ← readBody fuel after
              withRedirections (.loop true condition body, after)
          | some "until" => do
              let (condition, after) ← readList fuel rest
              let (body, after) ← readBody fuel after
              withRedirections (.loop false condition body, after)
          | some "for" =>
              match rest with
              | .word namePieces :: rest => do
                  let name ← plainWord? namePieces
                  let (words, after) := match expect "in" rest with
                    | some rest =>
                        let (words, after) := readWords rest
                        (some words, after)
                    | none => (none, rest)
                  let (body, after) ← readBody fuel after
                  withRedirections (.each name words body, after)
              | _ => none
          | some "\x7b" => do
              let (inner, after) ← readList fuel rest
              withRedirections (inner, ← expect "\x7d" after)
          | _ => readSimple (source.length + 1) [] [] [] source
      | .redirect .. :: _ => readSimple (source.length + 1) [] [] [] source
      | _ => none

end

/-- The command of a whole script. -/
def readScript? (script : List Char) : Option Command := do
  let source ← tokens (2 * script.length + 2) script
  let (command, rest) ← readList (8 * source.length + 8) source
  if rest.isEmpty then some command else none

end DeviceKernels.Shell
