import DeviceKernels.Files.Directory
import DeviceKernels.Files.Path

/-
A tree of directories around a working directory, which is the place of the empty list of names.
The names of an absolute path come after the name of the root.
-/

namespace DeviceKernels

structure FileTree where
  places : List (List String × Directory)
  deriving DecidableEq, Repr

namespace FileTree

def rootName : String := "/"

/-- The utilities that every system has. -/
def utilityNames : List String :=
  ["true", "false", "sleep", "sync", "echo", "printf", "cat", "head", "tail", "basename",
    "dirname", "wc", "tr", "seq", "cp", "mv", "rm", "touch", "mkdir"]

/-- The directory of the utilities and the command interpreters. -/
def programs : Directory :=
  ⟨(utilityNames ++ ["sh", "bash", "env"]).map fun name => (name, .file [] true)⟩

/-- An empty working directory on a system with one device file and the usual programs. -/
def initial : FileTree where
  places :=
    [([], .empty),
      ([rootName], ⟨["bin", "dev", "etc", "tmp", "usr", "var"].map fun name =>
        (name, .directory)⟩),
      ([rootName, "bin"], programs), ([rootName, "dev"], ⟨[("null", .file [] false)]⟩),
      ([rootName, "etc"], .empty), ([rootName, "tmp"], .empty),
      ([rootName, "usr"], ⟨[("bin", .directory)]⟩), ([rootName, "usr", "bin"], programs),
      ([rootName, "var"], .empty)]

/-- The names on the way to a path. A double dot takes the last name back. -/
def place (path : String) : List String :=
  let beginning := if Text.startsWith path "/" then [rootName] else []
  beginning ++ (Path.parts path).foldl
    (fun names part => if part == ".." then names.dropLast else names ++ [part]) []

def at? (tree : FileTree) (names : List String) : Option Directory := tree.places.lookup names

def set (tree : FileTree) (names : List String) (directory : Directory) : FileTree :=
  ⟨tree.places.filter (fun entry => entry.1 != names) ++ [(names, directory)]⟩

/-- Goes from a directory through subdirectories. -/
def descend (tree : FileTree) : List String → Directory → List String →
    Except FileError Directory
  | _, directory, [] => .ok directory
  | names, directory, name :: rest =>
      match directory.find? name with
      | none => .error .notFound
      | some (.file ..) => .error .notADirectory
      | some .directory =>
          match tree.at? (names ++ [name]) with
          | none => .error .notFound
          | some next => descend tree (names ++ [name]) next rest

/-- The directory at a place. -/
def openPlace (tree : FileTree) (names : List String) : Except FileError Directory :=
  let (start, rest) := match names with
    | first :: rest => if first == rootName then ([rootName], rest) else ([], names)
    | [] => ([], [])
  match tree.at? start with
  | none => .error .notFound
  | some directory => tree.descend start directory rest

/-- Goes to the place of a path. What a double dot leaves must be a directory. -/
def follow (tree : FileTree) (path : String) : Except FileError (List String) := do
  let beginning := if Text.startsWith path "/" then [rootName] else []
  let names ← (Path.parts path).foldlM
    (fun names part =>
      if part == ".." then (tree.openPlace (beginning ++ names)).map fun _ => names.dropLast
      else .ok (names ++ [part]))
    []
  .ok (beginning ++ names)

/-- The directory of a path. The empty path names none. -/
def openDirectory (tree : FileTree) (path : String) : Except FileError Directory := do
  if path == "" then .error .notFound else tree.openPlace (← tree.follow path)

/-- The entry of a path; a path without names is a directory. -/
def find (tree : FileTree) (path : String) : Except FileError Entry := do
  if path == "" then .error .notFound
  else
    let names ← tree.follow path
    match names.getLast? with
    | none => .ok .directory
    | some name =>
        if names == [rootName] then .ok .directory
        else
          match (← tree.openPlace names.dropLast).find? name with
          | some (.file contents executable) =>
              if Path.namesDirectory path then .error .notADirectory
              else .ok (.file contents executable)
          | some .directory => .ok .directory
          | none => .error .notFound

def readText (tree : FileTree) (path : String) : Except FileError String := do
  match ← tree.find path with
  | .directory => .error .isADirectory
  | .file contents _ =>
      match Text.ofUtf8? contents with
      | some text => .ok text
      | none => .error .notText

/-- Makes the directories that are missing on the way. -/
def makeOnWay (tree : FileTree) (names : List String) : List String → Except FileError FileTree
  | [] => .ok tree
  | name :: rest =>
      match tree.at? names with
      | none => .error .notFound
      | some directory =>
          match directory.find? name with
          | some (.file ..) => .error (if rest.isEmpty then .alreadyExists else .notADirectory)
          | some .directory => makeOnWay tree (names ++ [name]) rest
          | none =>
              makeOnWay ((tree.set names (directory.put name .directory)).set (names ++ [name])
                .empty) (names ++ [name]) rest

/-- Makes a directory and those above it; one that is there already is kept. -/
def makeDirectories (tree : FileTree) (path : String) : Except FileError FileTree :=
  match place path with
  | first :: rest =>
      if first == rootName then tree.makeOnWay [rootName] rest else tree.makeOnWay [] (first :: rest)
  | [] => .ok tree

/-- Puts a file at a path and makes the directories above it. -/
def write (tree : FileTree) (path : String) (contents : Bytes) (executable : Bool) :
    Except FileError FileTree := do
  let names := place path
  match names.getLast? with
  | none => .error .isADirectory
  | some name =>
      let above := Text.join "/" names.dropLast
      let tree ← tree.makeDirectories above
      let directory ← tree.openPlace names.dropLast
      match directory.find? name with
      | some .directory => .error .isADirectory
      | _ => .ok (tree.set names.dropLast (directory.put name (.file contents executable)))

/-- Makes an empty file in a directory that is there, or empties the file at the path. -/
def createFile (tree : FileTree) (path : String) : Except FileError FileTree := do
  if path == "" then .error .notFound
  else
    let names ← tree.follow path
    match names.getLast? with
    | none => .error .isADirectory
    | some name =>
        if names == [rootName] then .error .isADirectory
        else
          let directory ← tree.openPlace names.dropLast
          let put (executable : Bool) : FileTree :=
            tree.set names.dropLast (directory.put name (.file [] executable))
          match directory.find? name with
          | some .directory => .error .isADirectory
          | some (.file _ executable) =>
              if Path.namesDirectory path then .error .notADirectory else .ok (put executable)
          | none => if Path.namesDirectory path then .error .isADirectory else .ok (put false)

end FileTree

end DeviceKernels
