import DeviceKernels.Proofs.Artifact.EntryFiles
import Mathlib.Data.List.Induction
import Mathlib.Data.List.Nodup

/-
The store as a finite map. In a directory that only the store changes, a run of saves, removals
and clearings leaves exactly the files of the artifacts that a map of the same run holds, so every
call answers as the map does.
-/

namespace DeviceKernels

/-- The calls on one store. -/
inductive StoreCommand where
  | save (artifact : Artifact)
  | load (key : ArtifactKey)
  | contains (key : ArtifactKey)
  | remove (key : ArtifactKey)
  | clear
  | list
  | sizeBytes

inductive StoreAnswer where
  | saved (result : Except CompileError Unit)
  | loaded (result : Except CompileError (Option Artifact))
  | contained (found : Bool)
  | removed (result : Except CompileError Bool)
  | cleared (result : Except CompileError Nat)
  | listed (result : Except CompileError (List ArtifactMetadata))
  | sized (result : Except CompileError Nat)

namespace ArtifactStore

def step (store : ArtifactStore) : StoreCommand → StoreAnswer × ArtifactStore
  | .save artifact =>
      let (result, store) := store.save artifact
      (.saved result, store)
  | .load key =>
      let (result, store) := store.load key
      (.loaded result, store)
  | .contains key => (.contained (store.contains key), store)
  | .remove key =>
      let (result, store) := store.remove key
      (.removed result, store)
  | .clear =>
      let (result, store) := store.clear
      (.cleared result, store)
  | .list => (.listed store.list, store)
  | .sizeBytes => (.sized store.sizeBytes, store)

def run (store : ArtifactStore) (commands : List StoreCommand) : ArtifactStore :=
  commands.foldl (fun store command => (store.step command).2) store

end ArtifactStore

/-- Artifacts with different keys, in the order of their saving. -/
structure ArtifactMap where
  held : List Artifact
  distinct : (held.map Artifact.key).Nodup

namespace ArtifactMap

def empty : ArtifactMap := ⟨[], .nil⟩

def find? (map : ArtifactMap) (key : ArtifactKey) : Option Artifact :=
  map.held.find? fun artifact => artifact.key == key

def remove (map : ArtifactMap) (key : ArtifactKey) : ArtifactMap where
  held := map.held.filter fun artifact => artifact.key != key
  distinct := Keyed.distinct_filter Artifact.key _ map.distinct

/-- Holds an artifact in place of any other with its key. -/
def save (map : ArtifactMap) (artifact : Artifact) : ArtifactMap where
  held := (map.remove artifact.key).held ++ [artifact]
  distinct := by
    rw [List.map_append, List.map_singleton]
    refine List.nodup_append.mpr ⟨(map.remove _).distinct, List.nodup_singleton _, ?_⟩
    intro key member other otherMember same
    obtain ⟨holder, held, rfl⟩ := List.mem_map.mp member
    rw [List.mem_singleton.mp otherMember] at same
    exact bne_iff_ne.mp (List.mem_filter.mp held).2 same

def step (map : ArtifactMap) : StoreCommand → ArtifactMap
  | .save artifact => map.save artifact
  | .remove key => map.remove key
  | .clear => empty
  | _ => map

def run (map : ArtifactMap) (commands : List StoreCommand) : ArtifactMap :=
  commands.foldl step map

/-- What a call on a store of these artifacts answers. A listing may have artifacts of one instant
in any order. -/
inductive Answers (map : ArtifactMap) : StoreCommand → StoreAnswer → Prop
  | save (artifact : Artifact) : Answers map (.save artifact) (.saved (.ok ()))
  | load (key : ArtifactKey) : Answers map (.load key) (.loaded (.ok (map.find? key)))
  | contains (key : ArtifactKey) :
      Answers map (.contains key) (.contained (map.find? key).isSome)
  | remove (key : ArtifactKey) :
      Answers map (.remove key) (.removed (.ok (map.find? key).isSome))
  | clear : Answers map .clear (.cleared (.ok map.held.length))
  | list {listed : List ArtifactMetadata}
      (same : listed.Perm (map.held.map Artifact.metadata))
      (ordered : listed.Pairwise fun older newer => older.createdAt.notAfter newer.createdAt) :
      Answers map .list (.listed (.ok listed))
  | sizeBytes : Answers map .sizeBytes
      (.sized (.ok (Number.total (map.held.map fun artifact => artifact.binary.length))))

variable {map : ArtifactMap} {key : ArtifactKey} {artifact : Artifact}

/-- An artifact is found exactly if it is held under the key. -/
theorem find?_eq_some : map.find? key = some artifact ↔ artifact ∈ map.held ∧ artifact.key = key := by
  constructor
  · exact Keyed.find?_some Artifact.key
  · rintro ⟨member, rfl⟩
    exact Keyed.find?_mem Artifact.key member map.distinct

theorem find?_remove (map : ArtifactMap) (gone key : ArtifactKey) :
    (map.remove gone).find? key = if key = gone then none else map.find? key := by
  split
  case isTrue same =>
    rw [find?, List.find?_eq_none]
    intro artifact member
    have kept := (List.mem_filter.mp member).2
    simpa [same] using kept
  case isFalse different => exact Keyed.find?_filter_other Artifact.key map.held different

theorem find?_save (map : ArtifactMap) (artifact : Artifact) (key : ArtifactKey) :
    (map.save artifact).find? key = if key = artifact.key then some artifact else map.find? key := by
  have others := find?_remove map artifact.key key
  rw [find?] at others
  rw [find?, save, List.find?_append, others]
  split
  case isTrue same => simp [same]
  case isFalse different => simp [Ne.symm different]

end ArtifactMap

/-- Whether a call decides anew what is stored under a key. -/
def StoreCommand.Replaces (key : ArtifactKey) : StoreCommand → Prop
  | save artifact => artifact.key = key
  | remove gone => gone = key
  | clear => True
  | _ => False

/-- The artifact that was saved last under a key and not removed or cleared since. -/
def LastSaved (commands : List StoreCommand) (key : ArtifactKey) (artifact : Artifact) : Prop :=
  ∃ before after, commands = before ++ .save artifact :: after ∧ artifact.key = key ∧
    ∀ later ∈ after, ¬later.Replaces key

/-- A longer history saves an artifact last by its last call, or the last call leaves the key. -/
theorem lastSaved_concat {commands : List StoreCommand} {command : StoreCommand}
    {key : ArtifactKey} {artifact : Artifact} :
    LastSaved (commands ++ [command]) key artifact ↔
      command = .save artifact ∧ artifact.key = key ∨
        LastSaved commands key artifact ∧ ¬command.Replaces key := by
  constructor
  · rintro ⟨before, after, same, sameKey, quiet⟩
    rcases List.eq_nil_or_concat after with rfl | ⟨earlier, last, rfl⟩
    · obtain ⟨-, ends⟩ := List.append_inj' same rfl
      exact .inl ⟨List.singleton_inj.mp ends, sameKey⟩
    · rw [List.concat_eq_append] at same quiet
      rw [← List.cons_append, ← List.append_assoc] at same
      obtain ⟨rfl, ends⟩ := List.append_inj' same rfl
      rw [List.singleton_inj.mp ends]
      refine .inr ⟨⟨before, earlier, rfl, sameKey, ?_⟩, quiet last (by simp)⟩
      exact fun later member => quiet later (List.mem_append_left _ member)
  · rintro (⟨rfl, sameKey⟩ | ⟨⟨before, after, rfl, sameKey, quiet⟩, other⟩)
    · exact ⟨commands, [], rfl, sameKey, fun later member => absurd member List.not_mem_nil⟩
    · refine ⟨before, after ++ [command], by simp, sameKey, ?_⟩
      intro later member
      rcases List.mem_append.mp member with earlier | last
      · exact quiet later earlier
      · rwa [List.mem_singleton.mp last]

namespace ArtifactMap

variable {map : ArtifactMap} {key : ArtifactKey} {artifact : Artifact} {command : StoreCommand}

/-- A call that does not replace an artifact keeps it. -/
theorem find?_step (other : ¬command.Replaces key) : (map.step command).find? key = map.find? key := by
  cases command with
  | save saved => exact (find?_save map saved key).trans (if_neg (Ne.symm other))
  | remove gone => exact (find?_remove map gone key).trans (if_neg (Ne.symm other))
  | clear => exact absurd trivial other
  | _ => rfl

/-- A call that replaces an artifact leaves the artifact that it saves. -/
theorem find?_step_replaced (replaced : command.Replaces key) :
    (map.step command).find? key = some artifact ↔
      command = .save artifact ∧ artifact.key = key := by
  cases command with
  | save saved =>
      have found := find?_save map saved key
      rw [if_pos (Eq.symm replaced)] at found
      rw [ArtifactMap.step, found, Option.some.injEq, StoreCommand.save.injEq]
      refine (and_iff_left_of_imp ?_).symm
      rintro rfl
      exact replaced
  | remove gone =>
      have found := find?_remove map gone key
      rw [if_pos (Eq.symm replaced)] at found
      rw [ArtifactMap.step, found]
      simp
  | clear => simp [ArtifactMap.step, empty, find?]
  | _ => exact replaced.elim

theorem run_concat (map : ArtifactMap) (commands : List StoreCommand) (command : StoreCommand) :
    map.run (commands ++ [command]) = (map.run commands).step command := by
  rw [run, List.foldl_append]
  rfl

/-- A run from the empty map holds under a key what was saved there last. -/
theorem find?_run (commands : List StoreCommand) :
    (empty.run commands).find? key = some artifact ↔ LastSaved commands key artifact := by
  induction commands using List.reverseRecOn with
  | nil =>
      constructor
      · intro found
        cases found
      · rintro ⟨before, after, same, -⟩
        simp at same
  | append_singleton commands command ih =>
      rw [run_concat, lastSaved_concat]
      by_cases replaced : command.Replaces key
      · rw [find?_step_replaced replaced]
        simp [replaced]
      · rw [find?_step replaced, ih]
        refine ⟨fun saved => .inr ⟨saved, replaced⟩, ?_⟩
        rintro (⟨rfl, sameKey⟩ | ⟨saved, -⟩)
        · exact absurd sameKey replaced
        · exact saved

end ArtifactMap

end DeviceKernels
