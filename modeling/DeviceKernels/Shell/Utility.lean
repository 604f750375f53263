import DeviceKernels.Files.Tree
import DeviceKernels.Shell.Expansion
import DeviceKernels.Text.Hexadecimal

namespace DeviceKernels.Shell

/-- The bytes of a text whose characters stand for bytes. -/
def bytesOf (text : String) : Bytes := text.toList.map fun character =>
  UInt8.ofNat character.toNat

def textOf (bytes : Bytes) : String := String.ofList (bytes.map fun byte => Char.ofNat byte.toNat)

/-- The path that a text of bytes names. -/
def pathOf (text : String) : String := Text.ofUtf8Lossy (bytesOf text)

structure Effect where
  status : Nat
  output : String
  diagnostics : String
  tree : FileTree

namespace Effect

def silent (tree : FileTree) (status : Nat) : Effect := ⟨status, "", "", tree⟩

def prints (tree : FileTree) (output : String) : Effect := ⟨0, output, "", tree⟩

def complains (tree : FileTree) (diagnostics : String) : Effect :=
  ⟨1, "", diagnostics ++ "\n", tree⟩

end Effect

/-- The message of an error without its number. -/
def plainMessage : FileError → String
  | .notFound => "No such file or directory"
  | .isADirectory => "Is a directory"
  | .notADirectory => "Not a directory"
  | .alreadyExists => "File exists"
  | error => error.message

def readFile (tree : FileTree) (name : String) : Except FileError String := do
  match ← tree.find (pathOf name) with
  | .directory => .error .isADirectory
  | .file contents _ => .ok (textOf contents)

def writeFile (tree : FileTree) (name contents : String) : Except FileError FileTree :=
  let path := pathOf name
  match (FileTree.place path).getLast? with
  | none => .error .isADirectory
  | some last => do
      let above := (FileTree.place path).dropLast
      let directory ← tree.openPlace above
      match directory.find? last with
      | some .directory => .error .isADirectory
      | some (.file _ executable) =>
          .ok (tree.set above (directory.put last (.file (bytesOf contents) executable)))
      | none => .ok (tree.set above (directory.put last (.file (bytesOf contents) false)))

def removeFile (tree : FileTree) (name : String) : Except FileError FileTree := do
  let path := pathOf name
  match (FileTree.place path).getLast? with
  | none => .error .isADirectory
  | some last =>
      let above := (FileTree.place path).dropLast
      .ok (tree.set above (← (← tree.openPlace above).remove last))

def octalValue (digits : List Char) : Nat :=
  digits.foldl (fun value digit => 8 * value + Text.digitValue digit) 0

def isOctal (character : Char) : Bool := '0' ≤ character && character ≤ '7'

def simpleEscape? (character : Char) : Option Char :=
  match character with
  | 'n' => some '\n'
  | 't' => some '\t'
  | 'r' => some '\r'
  | 'a' => some (Char.ofNat 7)
  | 'b' => some (Char.ofNat 8)
  | 'f' => some (Char.ofNat 12)
  | 'v' => some (Char.ofNat 11)
  | '\\' => some '\\'
  | '"' => some '"'
  | _ => none

/-- One escape after its backslash, with at most three octal digits. -/
def readEscape (source : List Char) : String × List Char :=
  let digits := (source.take 3).takeWhile isOctal
  if !digits.isEmpty then
    (String.singleton (Char.ofNat (octalValue digits % 256)), source.drop digits.length)
  else match source with
    | character :: rest =>
        match simpleEscape? character with
        | some escaped => (String.singleton escaped, rest)
        | none => (String.ofList ['\\', character], rest)
    | [] => ("\\", [])

/-- A text with its escapes replaced. -/
def unescape : (fuel : Nat) → List Char → String
  | 0, _ => ""
  | _ + 1, [] => ""
  | fuel + 1, '\\' :: rest =>
      let source := match rest with
        | '0' :: digits => if (digits.take 1).all isOctal then digits else rest
        | _ => rest
      let (escaped, rest) := readEscape source
      escaped ++ unescape fuel rest
  | fuel + 1, character :: rest => String.singleton character ++ unescape fuel rest

/-- One pass of a format over its arguments; returns the arguments that are left. -/
def formatOnce : (fuel : Nat) → List Char → List String → String × List String
  | 0, _, arguments => ("", arguments)
  | _ + 1, [], arguments => ("", arguments)
  | fuel + 1, '\\' :: rest, arguments =>
      let (escaped, rest) := readEscape rest
      let (others, left) := formatOnce fuel rest arguments
      (escaped ++ others, left)
  | fuel + 1, '%' :: kind :: rest, arguments =>
      if kind == '%' then
        let (others, left) := formatOnce fuel rest arguments
        ("%" ++ others, left)
      else
        let argument := arguments.headD ""
        let text := match kind with
          | 'd' => Text.signedDecimal ((readInteger? argument).getD 0)
          | 'x' => Text.hexNumeral ((readInteger? argument).getD 0).toNat
          | 'b' => unescape (argument.length + 1) argument.toList
          | 'c' => Text.take 1 argument
          | _ => argument
        let (others, left) := formatOnce fuel rest arguments.tail
        (text ++ others, left)
  | fuel + 1, character :: rest, arguments =>
      let (others, left) := formatOnce fuel rest arguments
      (String.singleton character ++ others, left)

/-- A format is used again while it uses up arguments. -/
def formatAll : (fuel : Nat) → String → List String → String
  | 0, _, _ => ""
  | fuel + 1, format, arguments =>
      let (text, left) := formatOnce (format.length + 1) format.toList arguments
      if left.isEmpty || left.length == arguments.length then text
      else text ++ formatAll fuel format left

/-- The contents of named files in order, or the input when none is named. -/
def gather (utility : String) (tree : FileTree) (input : String) (names : List String) : Effect :=
  if names.isEmpty then .prints tree input
  else names.foldl
    (fun effect name =>
      match if name == "-" then .ok input else readFile tree name with
      | .ok contents => { effect with output := effect.output ++ contents }
      | .error error => { effect with
          status := 1
          diagnostics := effect.diagnostics ++ utility ++ ": " ++ name ++ ": " ++
            plainMessage error ++ "\n" })
    (.silent tree 0)

def splitLines (text : String) : List String :=
  let parts := Text.split '\n' text
  let ended := parts.dropLast.map (· ++ "\n")
  match parts.getLast? with
  | some "" => ended
  | some last => ended ++ [last]
  | none => ended

/-- The first or the last bytes or lines. -/
def cutText (fromEnd lines : Bool) (count : Nat) (text : String) : String :=
  let cut {Value : Type} (values : List Value) : List Value :=
    if fromEnd then values.drop (values.length - count) else values.take count
  if lines then String.join (cut (splitLines text)) else String.ofList (cut text.toList)

/-- The options of `head` and `tail`: lines or bytes, their number, and the files. -/
def cutOptions : Bool → Nat → List String → Bool × Nat × List String
  | lines, count, [] => (lines, count, [])
  | lines, count, option :: rest =>
      match option.toList, rest with
      | ['-', 'c'], number :: rest => (false, (number.toNat?).getD count, rest)
      | ['-', 'n'], number :: rest => (true, (number.toNat?).getD count, rest)
      | '-' :: 'c' :: digits, _ => (false, Text.ofDigits digits, rest)
      | '-' :: 'n' :: digits, _ => (true, Text.ofDigits digits, rest)
      | '-' :: digits, _ =>
          if digits.isEmpty then (lines, count, option :: rest)
          else (true, Text.ofDigits digits, rest)
      | _, _ => (lines, count, option :: rest)

def baseName (path ending : String) : String :=
  match (Text.split '/' path).filter (· != "") |>.getLast? with
  | none => if path == "" then "" else "/"
  | some name =>
      if name != ending && Text.endsWith name ending then
        Text.take (name.length - ending.length) name
      else name

/-- The characters that a set with ranges names. -/
def characterSet : List Char → List Char
  | first :: '-' :: last :: rest =>
      (List.range (last.toNat + 1 - first.toNat)).map (fun index => Char.ofNat (first.toNat + index))
        ++ characterSet rest
  | character :: rest => character :: characterSet rest
  | [] => []

def exchange (sources targets : List Char) (character : Char) : Char :=
  match sources.idxOf? character with
  | none => character
  | some index => (targets[index]?).getD (targets.getLastD character)

/-- The truth of a test without its closing bracket; none when it cannot be read. -/
def test? (tree : FileTree) : List String → Option Bool
  | [] => some false
  | [text] => some (text != "")
  | ["!", text] => some (text == "")
  | ["-n", text] => some (text != "")
  | ["-z", text] => some (text == "")
  | ["-e", path] => some (tree.find (pathOf path)).isOk
  | ["-f", path] => some (readFile tree path).isOk
  | ["-d", path] => some (tree.openDirectory (pathOf path)).isOk
  | ["-s", path] => some (match readFile tree path with
      | .ok contents => contents != ""
      | .error _ => false)
  | [first, "=", second] => some (first == second)
  | [first, "!=", second] => some (first != second)
  | [first, operator, second] => do
      let first ← readInteger? first
      let second ← readInteger? second
      match operator with
      | "-eq" => some (first == second)
      | "-ne" => some (first != second)
      | "-lt" => some (first < second)
      | "-le" => some (first ≤ second)
      | "-gt" => some (second < first)
      | "-ge" => some (second ≤ first)
      | _ => none
  | "!" :: rest => (test? tree rest).map (!·)
  | _ => none

/-- Applies a change to every name and complains about those that it does not take. -/
def changeEach (utility : String) (tree : FileTree)
    (change : FileTree → String → Except FileError FileTree) (names : List String) : Effect :=
  names.foldl
    (fun effect name =>
      match change effect.tree name with
      | .ok tree => { effect with tree }
      | .error error => { effect with
          status := 1
          diagnostics := effect.diagnostics ++ utility ++ ": " ++ name ++ ": " ++
            plainMessage error ++ "\n" })
    (.silent tree 0)

def copyFile (utility : String) (tree : FileTree) (source target : String) : Effect :=
  match readFile tree source with
  | .error error => .complains tree
      (utility ++ ": cannot stat '" ++ source ++ "': " ++ plainMessage error)
  | .ok contents =>
      let target := if (tree.openDirectory (pathOf target)).isOk then
        target ++ "/" ++ baseName source "" else target
      match writeFile tree target contents with
      | .ok tree => .silent tree 0
      | .error error => .complains tree
          (utility ++ ": cannot create regular file '" ++ target ++ "': " ++ plainMessage error)

/-- What a utility does; none when there is no utility of that name. -/
def runUtility (tree : FileTree) (input : String) (name : String) (arguments : List String) :
    Option Effect :=
  match name, arguments with
  | "true", _ => some (.silent tree 0)
  | "false", _ => some (.silent tree 1)
  | "sleep", _ => some (.silent tree 0)
  | "sync", _ => some (.silent tree 0)
  | "echo", "-n" :: rest =>
      some (.prints tree (unescape ((Text.join " " rest).length + 1) (Text.join " " rest).toList))
  | "echo", arguments =>
      let line := Text.join " " arguments
      some (.prints tree (unescape (line.length + 1) line.toList ++ "\n"))
  | "printf", format :: arguments =>
      some (.prints tree (formatAll (arguments.length + 1) format arguments))
  | "cat", names => some (gather "cat" tree input names)
  | "head", options =>
      let (lines, count, names) := cutOptions true 10 options
      let effect := gather "head" tree input names
      some { effect with output := cutText false lines count effect.output }
  | "tail", options =>
      let (lines, count, names) := cutOptions true 10 options
      let effect := gather "tail" tree input names
      some { effect with output := cutText true lines count effect.output }
  | "basename", [path] => some (.prints tree (baseName path "" ++ "\n"))
  | "basename", [path, ending] => some (.prints tree (baseName path ending ++ "\n"))
  | "dirname", [path] =>
      let above := (Text.split '/' path).dropLast
      some (.prints tree ((if above.isEmpty then "." else
        if above == [""] then "/" else Text.join "/" above) ++ "\n"))
  | "wc", "-c" :: names =>
      let effect := gather "wc" tree input names
      let suffix := String.join (names.map (" " ++ ·))
      some { effect with
        output := Text.decimal effect.output.length ++ suffix ++ "\n" }
  | "tr", [first, second] =>
      let exchanged := input.toList.map
        (exchange (characterSet first.toList) (characterSet second.toList))
      some (.prints tree (String.ofList exchanged))
  | "seq", [last] =>
      let numbers := (List.range ((readInteger? last).getD 0).toNat).map fun index =>
        Text.decimal (index + 1) ++ "\n"
      some (.prints tree (String.join numbers))
  | "cp", [source, target] => some (copyFile "cp" tree source target)
  | "mv", [source, target] =>
      let effect := copyFile "mv" tree source target
      match effect.status, removeFile effect.tree source with
      | 0, .ok tree => some { effect with tree }
      | _, _ => some effect
  | "rm", "-f" :: names =>
      some { changeEach "rm" tree removeFile names with status := 0, diagnostics := "" }
  | "rm", names => some (changeEach "rm" tree removeFile names)
  | "touch", names => some (changeEach "touch" tree
      (fun tree name => match readFile tree name with
        | .error .notFound => writeFile tree name ""
        | _ => .ok tree) names)
  | "mkdir", "-p" :: names => some (changeEach "mkdir" tree
      (fun tree name => tree.makeDirectories (pathOf name)) names)
  | "mkdir", names => some (changeEach "mkdir" tree
      (fun tree name =>
        if (tree.find (pathOf name)).isOk then .error .alreadyExists
        else tree.makeDirectories (pathOf name)) names)
  | _, _ => none

end DeviceKernels.Shell
