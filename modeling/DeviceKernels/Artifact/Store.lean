import DeviceKernels.Artifact.Metadata
import DeviceKernels.Files.Tree

/-
The store of artifacts in a directory. An artifact is a binary file and a metadata file with the
key as their name. The metadata is written last, so an entry counts only when both are complete.
-/

namespace DeviceKernels

/-- One change of a directory. -/
inductive SaveStep where
  | write (name : String) (contents : Bytes)
  /-- Moves a file to a name in one step, in place of any file that has it. -/
  | rename (source target : String)
  deriving DecidableEq, Repr

def SaveStep.apply (directory : Directory) : SaveStep → Except FileError Directory
  | write name contents => directory.publish name contents
  | rename source target => do
      let contents ← directory.read source
      (directory.erase source).publish target contents

structure ArtifactStore where
  path : String
  directory : Directory
  deriving DecidableEq, Repr

namespace ArtifactStore

/-- Opens the store at a path of a file tree, and makes its directory if it is missing. The empty
path stands for the working directory. -/
def create (tree : FileTree) (path : String) : Except FileError (ArtifactStore × FileTree) := do
  let tree ← tree.makeDirectories path
  .ok (⟨path, ← tree.openPlace (FileTree.place path)⟩, tree)

/-- The tree with the directory of the store as it is now. -/
def putInto (store : ArtifactStore) (tree : FileTree) : FileTree :=
  tree.set (FileTree.place store.path) store.directory

def binaryName (key : ArtifactKey) : String := key.toHex ++ ".bin"

def metadataName (key : ArtifactKey) : String := key.toHex ++ ".json"

/-- A file on its way to its name. -/
def temporaryName : String := ".tmp000000"

def binaryPath (store : ArtifactStore) (key : ArtifactKey) : String :=
  Path.join store.path (binaryName key)

def contains (store : ArtifactStore) (key : ArtifactKey) : Bool :=
  store.directory.holds (metadataName key) && store.directory.holds (binaryName key)

def saveSteps (artifact : Artifact) : List SaveStep :=
  [.write temporaryName artifact.binary,
    .rename temporaryName (binaryName artifact.key),
    .write temporaryName (Text.utf8 artifact.metadata.render),
    .rename temporaryName (metadataName artifact.key)]

/-- Takes steps until one fails; a failed step leaves no temporary file. -/
def takeSteps (directory : Directory) : List SaveStep → Except FileError Unit × Directory
  | [] => (.ok (), directory)
  | step :: rest =>
      match step.apply directory with
      | .ok directory => takeSteps directory rest
      | .error error => (.error error, directory.erase temporaryName)

/-- Writes an entry in place of any entry of its key. -/
def save (store : ArtifactStore) (artifact : Artifact) : Except CompileError Unit × ArtifactStore :=
  let (result, directory) := takeSteps store.directory (saveSteps artifact)
  (result.mapError .file, { store with directory })

/-- Removes a file if it is there, and tells whether it was. -/
def discard (directory : Directory) (name : String) : Except FileError Bool × Directory :=
  match directory.remove name with
  | .ok directory => (.ok true, directory)
  | .error .notFound => (.ok false, directory)
  | .error error => (.error error, directory)

/-- Removes both files of an entry, and tells whether there was one. -/
def remove (store : ArtifactStore) (key : ArtifactKey) : Except CompileError Bool × ArtifactStore :=
  match discard store.directory (metadataName key) with
  | (.error error, directory) => (.error (.file error), { store with directory })
  | (.ok metadataRemoved, directory) =>
      match discard directory (binaryName key) with
      | (.error error, directory) => (.error (.file error), { store with directory })
      | (.ok binaryRemoved, directory) =>
          (.ok (metadataRemoved || binaryRemoved), { store with directory })

/-- The artifact of a key whose metadata file is there. -/
def readEntry (directory : Directory) (key : ArtifactKey) : Except CompileError Artifact := do
  let metadata ← ArtifactMetadata.parse
    (← (directory.readText (metadataName key)).mapError .file)
  if metadata.key != key.toHex then
    .error (.metadata (.foreignKey key.short metadata.key))
  else
    match directory.find? (binaryName key) with
    | none => .error (.metadata (.noBinary key.short))
    | some .directory => .error (.file .noDevice)
    | some (.file binary _) => Artifact.ofParts metadata binary

/-- Loads the artifact of a key. An entry that is not what it says is removed. -/
def load (store : ArtifactStore) (key : ArtifactKey) :
    Except CompileError (Option Artifact) × ArtifactStore :=
  if !store.directory.holds (metadataName key) then (.ok none, store)
  else
    match readEntry store.directory key with
    | .ok artifact => (.ok (some artifact), store)
    | .error error =>
        if error.isCorruption then
          match store.remove key with
          | (.ok _, store) => (.error error, store)
          | (.error failure, store) => (.error failure, store)
        else (.error error, store)

/-- The entries with an extension. The empty path cannot be listed. -/
def entriesWith (store : ArtifactStore) (extension : String) :
    Except CompileError (List (String × Entry)) :=
  if store.path == "" then .error (.file .notFound)
  else .ok (store.directory.entries.filter fun entry => Path.extension? entry.1 == some extension)

/-- The readable metadata, the oldest first. -/
def list (store : ArtifactStore) : Except CompileError (List ArtifactMetadata) := do
  let entries ← store.entriesWith "json"
  let readable := entries.filterMap fun entry =>
    match store.directory.readText entry.1 with
    | .ok text => (ArtifactMetadata.parse text).toOption
    | .error _ => none
  .ok (readable.mergeSort fun first second => first.createdAt.notAfter second.createdAt)

/-- Removes files until one cannot be removed, and counts the metadata files. -/
def clearEntries (directory : Directory) : Nat → List (String × Entry) →
    Except FileError Nat × Directory
  | count, [] => (.ok count, directory)
  | count, (name, _) :: rest =>
      let extension := Path.extension? name
      if extension == some "json" || extension == some "bin" then
        match directory.remove name with
        | .ok directory =>
            clearEntries directory (if extension == some "json" then count + 1 else count) rest
        | .error error => (.error error, directory)
      else clearEntries directory count rest

/-- Removes every entry and counts those that were committed. -/
def clear (store : ArtifactStore) : Except CompileError Nat × ArtifactStore :=
  if store.path == "" then (.error (.file .notFound), store)
  else
    let (result, directory) := clearEntries store.directory 0 store.directory.entries
    (result.mapError .file, { store with directory })

/-- The bytes of all binaries. -/
def sizeBytes (store : ArtifactStore) : Except CompileError Nat := do
  .ok (Number.total ((← store.entriesWith "bin").map fun entry => entry.2.size))

structure Summary where
  path : String
  entries : Nat
  sizeBytes : Nat
  deriving DecidableEq, Repr

def Summary.toJson (summary : Summary) : Json := .object
  [("dir", .text summary.path), ("entries", .ofNat summary.entries),
    ("size_bytes", .ofNat summary.sizeBytes)]

def summarize (store : ArtifactStore) : Except CompileError Summary := do
  .ok ⟨store.path, (← store.list).length, ← store.sizeBytes⟩

end ArtifactStore

end DeviceKernels
