import DeviceKernels.CommandLine.Command

/-
The program around the command line. It collects the environment and the files that a command may
need, and after the command it writes the output and the files that have changed.
-/

namespace DeviceKernels.Host

def readEnvironment : IO Environment := do
  let values ← Variable.all.filterMapM fun key => do
    return (← IO.getEnv key.name).map fun value => (key.name, value)
  return .ofList values

/-- Copies the file or the directory at a path, without the directories below it, into a tree. -/
def copyInto (tree : FileTree) (path : String) : IO FileTree := do
  let add (tree : FileTree) (path : String) (contents : ByteArray) : FileTree :=
    ((tree.write path contents.toList true).toOption).getD tree
  try
    let place ← IO.FS.realPath path
    if ← place.isDir then
      let mut copy := ((tree.makeDirectories path).toOption).getD tree
      for entry in ← place.readDir do
        let inner := Path.join path entry.fileName
        if ← entry.path.isDir then copy := ((copy.makeDirectories inner).toOption).getD copy
        else copy := add copy inner (← IO.FS.readBinFile entry.path)
      return copy
    else return add tree path (← IO.FS.readBinFile place)
  catch _ => return tree

/-- Writes the files of a directory that are new or have changed, and removes those that are gone. -/
def writeBack (before after : FileTree) (path : String) : IO Unit := do
  match after.openDirectory path with
  | .error _ => return
  | .ok directory =>
      let old := ((before.openDirectory path).toOption).getD .empty
      IO.FS.createDirAll path
      for (name, entry) in directory.entries do
        match entry with
        | .directory => pure ()
        | .file contents _ =>
            if old.find? name != some entry then
              IO.FS.writeBinFile (Path.join path name) ⟨contents.toArray⟩
      for (name, entry) in old.entries do
        if entry != .directory && !directory.holds name then
          IO.FS.removeFile (Path.join path name)

/-- The number of processors, which is one where it is not told. -/
def processors : IO UInt32 := do
  try
    let lines ← IO.FS.lines "/proc/cpuinfo"
    let count := (lines.filter fun line => Text.startsWith line "processor").size
    return UInt32.ofNat (max count 1)
  catch _ => return 1

/-- The present instant, at which a new file is dated. -/
def now : IO Instant := do
  let (_, path) ← IO.FS.createTempFile
  let modified := (← path.metadata).modified
  IO.FS.removeFile path
  return ⟨modified.sec, modified.nsec.toNat⟩

/-- The directory that a path lies in. -/
def parent (path : String) : String :=
  match Text.join "/" (Text.split '/' path).dropLast with
  | "" => if Text.startsWith path "/" then "/" else "."
  | directory => directory

end DeviceKernels.Host

open DeviceKernels in
/-- Runs the command of the arguments and ends with its status. -/
def main (arguments : List String) : IO UInt32 := do
  let environment ← Host.readEnvironment
  let named := [Variable.configFile, .compiler].filterMap environment.value?
  let logDirectory := (environment.value? .logFile).map Host.parent
  let mut files ← (named ++ logDirectory.toList).foldlM Host.copyInto .initial
  let config := (Config.load environment files).toOption
  let cachePath := config.bind Config.cachePath
  files ← (cachePath.toList ++ (config.bind Config.compilerProgram).toList).foldlM Host.copyInto
    files
  let started ← IO.monoMsNow
  let context : CommandContext := ⟨environment, files, ← Host.processors, ← Host.now⟩
  let outcome := context.run arguments
  (cachePath.toList ++ logDirectory.toList).forM (Host.writeBack files outcome.files)
  IO.eprint outcome.diagnostics
  let ended ← IO.monoMsNow
  IO.print (outcome.outputText (Text.decimal (ended - started)))
  return UInt32.ofNat outcome.status.code
