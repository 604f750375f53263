import DeviceKernels.Number.Word
import DeviceKernels.Text.Utf8

/-
One directory: entries under names. An entry is a regular file or the mark of a subdirectory.
-/

namespace DeviceKernels

inductive FileError where
  | notFound
  /-- An executable file that is neither a binary nor a script. -/
  | notExecutable
  | permissionDenied
  | alreadyExists
  | noDevice
  | notADirectory
  | isADirectory
  /-- The bytes of a text file are not UTF-8. -/
  | notText
  /-- A program's name or argument holds a zero byte. -/
  | zeroByte
  deriving DecidableEq, Repr

def FileError.message : FileError → String
  | notFound => "No such file or directory (os error 2)"
  | notExecutable => "Exec format error (os error 8)"
  | permissionDenied => "Permission denied (os error 13)"
  | alreadyExists => "File exists (os error 17)"
  | noDevice => "No such device (os error 19)"
  | notADirectory => "Not a directory (os error 20)"
  | isADirectory => "Is a directory (os error 21)"
  | notText => "stream did not contain valid UTF-8"
  | zeroByte => "nul byte found in provided data"

inductive Entry where
  | file (contents : Bytes) (executable : Bool)
  | directory
  deriving DecidableEq, Repr

/-- The bytes that an entry occupies; a subdirectory occupies one page. -/
def Entry.size : Entry → Nat
  | file contents _ => contents.length
  | directory => 4096

/-- Entries in the order of their making. No name occurs twice. -/
structure Directory where
  entries : List (String × Entry)
  deriving DecidableEq, Repr

namespace Directory

def empty : Directory := ⟨[]⟩

def find? (directory : Directory) (name : String) : Option Entry :=
  directory.entries.lookup name

def holds (directory : Directory) (name : String) : Bool := (directory.find? name).isSome

def erase (directory : Directory) (name : String) : Directory :=
  ⟨directory.entries.filter fun entry => entry.1 != name⟩

def put (directory : Directory) (name : String) (entry : Entry) : Directory :=
  ⟨(directory.erase name).entries ++ [(name, entry)]⟩

def read (directory : Directory) (name : String) : Except FileError Bytes :=
  match directory.find? name with
  | none => .error .notFound
  | some .directory => .error .isADirectory
  | some (.file contents _) => .ok contents

def readText (directory : Directory) (name : String) : Except FileError String := do
  match Text.ofUtf8? (← directory.read name) with
  | some text => .ok text
  | none => .error .notText

/-- Removes a regular file. -/
def remove (directory : Directory) (name : String) : Except FileError Directory :=
  match directory.find? name with
  | none => .error .notFound
  | some .directory => .error .isADirectory
  | some (.file ..) => .ok (directory.erase name)

/-- Gives a complete file its name in one step, in place of any file that had it. -/
def publish (directory : Directory) (name : String) (contents : Bytes) :
    Except FileError Directory :=
  match directory.find? name with
  | some .directory => .error .isADirectory
  | _ => .ok (directory.put name (.file contents false))

theorem findEraseSame (directory : Directory) (name : String) :
    (directory.erase name).find? name = none := by
  simp only [find?, erase, List.lookup_eq_none_iff, List.mem_filter, bne_iff_ne]
  intro entry held
  exact held.2.symm

theorem findPutSame (directory : Directory) (name : String) (entry : Entry) :
    (directory.put name entry).find? name = some entry := by
  have absent : (directory.erase name).entries.lookup name = none := findEraseSame directory name
  simp [put, find?, List.lookup_append, absent]

theorem findEraseOther (directory : Directory) {name other : String} (different : other ≠ name) :
    (directory.erase name).find? other = directory.find? other := by
  obtain ⟨entries⟩ := directory
  simp only [find?, erase]
  induction entries with
  | nil => rfl
  | cons entry rest inductionHypothesis =>
      obtain ⟨found, value⟩ := entry
      by_cases same : found = name
      · have differs : (other == found) = false := beq_false_of_ne (same ▸ different)
        rw [List.filter_cons_of_neg (by simp [same]), inductionHypothesis, List.lookup_cons,
          differs]
      · rw [List.filter_cons_of_pos (by simp [same]), List.lookup_cons, List.lookup_cons,
          inductionHypothesis]

theorem findPutOther (directory : Directory) {name other : String} (entry : Entry)
    (different : other ≠ name) :
    (directory.put name entry).find? other = directory.find? other := by
  have kept := findEraseOther directory different
  have differs : (other == name) = false := beq_false_of_ne different
  simp only [find?] at kept
  simp [put, find?, List.lookup_append, kept, List.lookup_cons, differs]

end Directory

end DeviceKernels
