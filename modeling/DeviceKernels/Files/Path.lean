import DeviceKernels.Text.Numeral

/-
Paths of files. A path is a text with slashes; empty parts and single dots name nothing.
-/

namespace DeviceKernels.Path

/-- The parts that name something. -/
def parts (path : String) : List String :=
  (Text.split '/' path).filter fun part => part != "" && part != "."

/-- Whether the end of a path says that it is the path of a directory. -/
def namesDirectory (path : String) : Bool :=
  Text.endsWith path "/" || Text.endsWith path "/."

/-- The last part, if it is a name. -/
def fileName? (path : String) : Option String :=
  match (parts path).getLast? with
  | some ".." => none
  | name => name

/-- What follows the last dot of a file name. A dot at the start begins no extension. -/
def extension? (name : String) : Option String :=
  let reversed := name.toList.reverse
  let ending := reversed.takeWhile (· != '.')
  match reversed.drop ending.length with
  | _ :: _ :: _ => if name == ".." then none else some (String.ofList ending.reverse)
  | _ => none

/-- A path under a directory; an absolute path stands for itself. -/
def join (directory path : String) : String :=
  if directory == "" || Text.startsWith path "/" then path
  else if Text.endsWith directory "/" then directory ++ path
  else directory ++ "/" ++ path

end DeviceKernels.Path
