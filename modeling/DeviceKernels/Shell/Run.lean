import DeviceKernels.Shell.Utility

namespace DeviceKernels.Shell

/-- Where a stream of output goes. -/
inductive Sink where
  | output
  | diagnostics
  | file (name : String)
  | nowhere
  deriving DecidableEq, Repr

structure Streams where
  input : String
  output : Sink
  diagnostics : Sink

/-- How a process ended: with a status, or by a signal. -/
inductive Ending where
  | status (code : Nat)
  | signal
  deriving DecidableEq, Repr

/-- Streams are kept in pieces, the last piece first. -/
structure Machine where
  program : String
  bindings : List (String × String)
  arguments : List String
  status : Nat
  output : List String
  diagnostics : List String
  tree : FileTree
  ending : Option Ending

namespace Machine

def emit (machine : Machine) (sink : Sink) (text : String) : Machine :=
  if text.isEmpty then machine
  else match sink with
    | .output => { machine with output := text :: machine.output }
    | .diagnostics => { machine with diagnostics := text :: machine.diagnostics }
    | .nowhere => machine
    | .file name =>
        match readFile machine.tree name with
        | .error _ => machine
        | .ok contents =>
            match writeFile machine.tree name (contents ++ text) with
            | .ok tree => { machine with tree }
            | .error _ => machine

def setVariable (machine : Machine) (name value : String) : Machine :=
  { machine with
    bindings := (name, value) :: machine.bindings.filter fun entry => entry.1 != name }

def finish (machine : Machine) (status : Nat) : Machine := { machine with status }

def stop (machine : Machine) (ending : Ending) : Machine :=
  { machine with ending := some ending }

/-- Opens the target of a redirection. -/
def openTarget (machine : Machine) (append : Bool) (name : String) :
    Except FileError (Sink × Machine) :=
  if name == "/dev/null" then .ok (.nowhere, machine)
  else
    match readFile machine.tree name with
    | .ok _ =>
        if append then .ok (.file name, machine)
        else (writeFile machine.tree name "").map fun tree =>
          (.file name, { machine with tree })
    | .error .notFound =>
        (writeFile machine.tree name "").map fun tree => (.file name, { machine with tree })
    | .error error => .error error

/-- Streams after one redirection. -/
def redirect (surroundings : Surroundings) (redirection : Redirection) :
    Streams × Machine → Except String (Streams × Machine)
  | (streams, machine) =>
      let complaint (verb name : String) (error : FileError) : String :=
        machine.program ++ ": 1: cannot " ++ verb ++ " " ++ name ++ ": " ++
          (if verb == "create" && error == .notFound then "Directory nonexistent"
           else if error == .notFound then "No such file" else plainMessage error) ++ "\n"
      match redirection with
      | .read target =>
          let name := expandWhole surroundings target
          if name == "/dev/null" then .ok ({ streams with input := "" }, machine)
          else match readFile machine.tree name with
            | .ok input => .ok ({ streams with input }, machine)
            | .error error => .error (complaint "open" name error)
      | .write descriptor append target =>
          let name := expandWhole surroundings target
          match machine.openTarget append name with
          | .error error => .error (complaint "create" name error)
          | .ok (sink, machine) =>
              if descriptor == 2 then .ok ({ streams with diagnostics := sink }, machine)
              else .ok ({ streams with output := sink }, machine)
      | .duplicate descriptor target =>
          let sink := if expandWhole surroundings target == "2" then streams.diagnostics
            else streams.output
          if descriptor == 2 then .ok ({ streams with diagnostics := sink }, machine)
          else .ok ({ streams with output := sink }, machine)

def redirectAll (surroundings : Surroundings) (redirections : List Redirection) (streams : Streams)
    (machine : Machine) : Except String (Streams × Machine) :=
  redirections.foldlM (fun state redirection => redirect surroundings redirection state)
    (streams, machine)

/-- Runs a command that changes the shell itself, or a utility. -/
def perform (machine : Machine) (streams : Streams) : List String → Machine
  | [] => machine.finish 0
  | name :: arguments =>
      match name, arguments with
      | ":", _ => machine.finish 0
      | "exit", [] => machine.stop (.status machine.status)
      | "exit", code :: _ =>
          machine.stop (.status ((readInteger? code).getD 2 % 256).toNat)
      | "return", code :: _ =>
          machine.stop (.status ((readInteger? code).getD 2 % 256).toNat)
      | "kill", _ => if arguments.contains "-0" then machine.finish 0 else machine.stop .signal
      | "shift", [] => { machine with arguments := machine.arguments.tail, status := 0 }
      | "shift", count :: _ =>
          { machine with
            arguments := machine.arguments.drop ((readInteger? count).getD 1).toNat
            status := 0 }
      | "set", "--" :: fields => { machine with arguments := fields, status := 0 }
      | "set", _ => machine.finish 0
      | "export", _ => machine.finish 0
      | "unset", names =>
          { machine with
            bindings := machine.bindings.filter fun entry => !names.contains entry.1
            status := 0 }
      | "exec", [] => machine.finish 0
      | "[", fields =>
          if fields.getLast? == some "]" then
            match test? machine.tree fields.dropLast with
            | some true => machine.finish 0
            | some false => machine.finish 1
            | none => machine.finish 2
          else machine.finish 2
      | "test", fields =>
          match test? machine.tree fields with
          | some true => machine.finish 0
          | some false => machine.finish 1
          | none => machine.finish 2
      | _, _ =>
          match runUtility machine.tree streams.input name arguments with
          | some effect =>
              (({ machine with tree := effect.tree }.emit streams.output effect.output).emit
                streams.diagnostics effect.diagnostics).finish effect.status
          | none =>
              (machine.emit streams.diagnostics
                (machine.program ++ ": 1: " ++ name ++ ": not found\n")).finish 127

def stripBreaks (text : String) : String :=
  String.ofList ((text.toList.reverse.dropWhile (· == '\n')).reverse)

def written (pieces : List String) : String := String.join pieces.reverse

/-- Runs a command; the fuel bounds the depth of commands and the repetitions of loops. -/
def run : (fuel : Nat) → Streams → Command → Machine → Machine
  | 0, _, _, machine => machine.stop .signal
  | fuel + 1, streams, command, machine =>
      let surroundings : Surroundings :=
        { bindings := machine.bindings
          program := machine.program
          arguments := machine.arguments
          status := machine.status
          substitute := fun script =>
            match readScript? script with
            | none => ""
            | some inner =>
                stripBreaks (written (run fuel { streams with output := .output } inner
                  { machine with output := [] }).output) }
      let after (first : Machine) (next : Machine → Machine) : Machine :=
        if first.ending.isSome then first else next first
      match command with
      | .skip => machine
      | .simple assignments words redirections =>
          match machine.redirectAll surroundings redirections streams with
          | .error complaint =>
              (machine.emit streams.diagnostics complaint).finish 2
          | .ok (inner, machine) =>
              let fields := expand surroundings words
              let assigned := assignments.foldl
                (fun machine (name, value) =>
                  machine.setVariable name (expandWhole surroundings value))
                machine
              if fields.isEmpty then assigned.finish 0
              else
                let fields := if fields.head? == some "exec" && fields.length ≠ 1 then fields.tail
                  else fields
                assigned.perform inner fields
      | .sequence first second => after (run fuel streams first machine) (run fuel streams second)
      | .both first second =>
          after (run fuel streams first machine) fun machine =>
            if machine.status == 0 then run fuel streams second machine else machine
      | .either first second =>
          after (run fuel streams first machine) fun machine =>
            if machine.status == 0 then machine else run fuel streams second machine
      | .negated inner =>
          after (run fuel streams inner machine) fun machine =>
            machine.finish (if machine.status == 0 then 1 else 0)
      | .choice condition positive negative =>
          after (run fuel streams condition machine) fun machine =>
            if machine.status == 0 then run fuel streams positive (machine.finish 0)
            else run fuel streams negative (machine.finish 0)
      | .loop success condition body =>
          after (run fuel streams condition machine) fun machine =>
            if (machine.status == 0) == success then
              after (run fuel streams body machine) (run fuel streams (.loop success condition body))
            else machine.finish 0
      | .each name words body =>
          let fields := match words with
            | none => machine.arguments
            | some words => expand surroundings words
          fields.foldl
            (fun machine field =>
              if machine.ending.isSome then machine
              else run fuel streams body (machine.setVariable name field))
            (machine.finish 0)
      | .redirected inner redirections =>
          match machine.redirectAll surroundings redirections streams with
          | .error complaint => (machine.emit streams.diagnostics complaint).finish 2
          | .ok (changed, machine) => run fuel changed inner machine
      | .pipe first second =>
          let left := run fuel { streams with output := .output } first
            { machine with output := [] }
          let right := run fuel { streams with input := written left.output } second
            { machine with tree := left.tree, diagnostics := left.diagnostics }
          let status := match right.ending with
            | some (.status code) => code
            | some .signal => 137
            | none => right.status
          { machine with
            tree := right.tree
            output := right.output
            diagnostics := right.diagnostics
            status }

end Machine

/-- What a finished process leaves. -/
structure Completed where
  ending : Ending
  diagnostics : Bytes
  tree : FileTree

def interpreters : List String := ["/bin/sh", "/bin/bash", "/usr/bin/sh", "/usr/bin/bash"]

/-- Runs a script file with its arguments. -/
def runScript (tree : FileTree) (program : String) (script : Bytes) (arguments : List String) :
    Completed :=
  let machine : Machine :=
    { program, bindings := [], arguments := arguments.map fun argument =>
        textOf (Text.utf8 argument), status := 0, output := [], diagnostics := [], tree
      ending := none }
  match readScript? (textOf script).toList with
  | none =>
      ⟨.status 2, Text.utf8 (program ++ ": 1: Syntax error\n"), tree⟩
  | some command =>
      let machine := machine.run 1000000 ⟨"", .output, .diagnostics⟩ command
      ⟨machine.ending.getD (.status machine.status), bytesOf (Machine.written machine.diagnostics),
        machine.tree⟩

def runNamed (tree : FileTree) (name : String) (arguments : List String) : Completed :=
  match runUtility tree "" name (arguments.map fun argument => textOf (Text.utf8 argument)) with
  | some effect => ⟨.status effect.status, bytesOf effect.diagnostics, effect.tree⟩
  | none => ⟨.status 1, [], tree⟩

/-- The interpreter that the first line of a script names. -/
def interpreter? (contents : Bytes) : Option String :=
  match (textOf (contents.takeWhile (· != 10))).toList with
  | '#' :: '!' :: rest => some (Text.trim (String.ofList rest))
  | _ => none

/-- Runs a program: a name without slashes is one of the utilities, any other name is a path. -/
def runProgram (tree : FileTree) (program : String) (arguments : List String) :
    Except FileError Completed :=
  if (program :: arguments).any fun text => text.toList.contains (Char.ofNat 0) then
    .error .zeroByte
  else if !program.toList.contains '/' then
    if FileTree.utilityNames.contains program then .ok (runNamed tree program arguments)
    else if program == "." || program == ".." then .error .permissionDenied
    else .error .notFound
  else
    let directory := Text.join "/" (Text.split '/' program).dropLast
    let name := baseName program ""
    if ["/bin", "/usr/bin"].contains directory && FileTree.utilityNames.contains name then
      .ok (runNamed tree name arguments)
    else do
      match ← tree.find program with
      | .directory => .error .permissionDenied
      | .file _ false => .error .permissionDenied
      | .file contents true =>
          match interpreter? contents with
          | none => .error .notExecutable
          | some named =>
              if interpreters.contains named then .ok (runScript tree program contents arguments)
              else .error .notFound

end DeviceKernels.Shell
