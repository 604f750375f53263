import DeviceKernels.Proofs.Artifact.Descriptions
import DeviceKernels.Proofs.Artifact.Presence
import Mathlib.Data.Set.Basic

/-
The kernel names of answers. The key of a source says nothing of the kernels that are asked for,
so a request that finds its key is answered with the names of an earlier one.
-/

namespace DeviceKernels

/-- The lists of kernel names that a directory describes under a key. -/
def ArtifactStore.listsOf (directory : Directory) (key : ArtifactKey) : Set (List String) :=
  { list | ∃ metadata, Described directory key metadata ∧ metadata.kernelNames = list }

/-- The lists of kernel names that a call brings under a key: the one that it asks for, or those of
the descriptions that another program leaves. -/
def CacheCommand.lists {World : Type} (cache : ArtifactCache World) :
    CacheCommand World → ArtifactKey → Set (List String)
  | compile source kernelNames _, key => { list | cache.keyFor source = key ∧ list = kernelNames }
  | disturb _ directory, key => ArtifactStore.listsOf directory key
  | _, _ => ∅

namespace ArtifactCache

variable {World : Type} {cache after : ArtifactCache World}
  {lists : ArtifactKey → Set (List String)} {source : String} {kernelNames : List String}
  {now : Instant} {artifact : Artifact}

/-- Some calls on a new cache lead to the cache, and these are the lists that they brought. -/
inductive Recorded : ArtifactCache World → (ArtifactKey → Set (List String)) → Prop
  | create {capacity : Nat} {options : CompileOptions} {compiler : Compiler World} {world : World}
      {store : Option ArtifactStore} {cache : ArtifactCache World}
      (created : ArtifactCache.create capacity options compiler world store = .ok cache) :
      Recorded cache fun key =>
        { list | ∃ opened, store = some opened ∧ list ∈ ArtifactStore.listsOf opened.directory key }
  | step {cache : ArtifactCache World} {lists : ArtifactKey → Set (List String)}
      (recorded : Recorded cache lists) (command : CacheCommand World) :
      Recorded (cache.step command).2 fun key => lists key ∪ command.lists cache key

/-- A recorded cache is reachable. -/
theorem Recorded.reachable (recorded : cache.Recorded lists) : cache.Reachable := by
  induction recorded with
  | create created => exact .create created
  | step _ command ih => exact ih.step command

/-- Every reachable cache has a record, so what holds of recorded caches holds of all that calls lead
to. -/
theorem reachable_recorded (reachable : cache.Reachable) : ∃ lists, cache.Recorded lists := by
  induction reachable with
  | create created => exact ⟨_, .create created⟩
  | step _ command ih =>
      obtain ⟨lists, recorded⟩ := ih
      exact ⟨_, recorded.step command⟩

/-- The lists in memory and in the descriptions of the store are recorded. -/
abbrev KeepsLists (lists : ArtifactKey → Set (List String)) (cache : ArtifactCache World) : Prop :=
  cache.Keeps (ArtifactStore.DescribesRight fun key list => list ∈ lists key)
    fun artifact => artifact.kernelNames ∈ lists artifact.key

/-- What is recorded stays recorded. -/
theorem KeepsLists.grow (keeps : cache.KeepsLists lists) (more : ArtifactKey → Set (List String)) :
    cache.KeepsLists fun key => lists key ∪ more key :=
  keeps.imp (fun _ names key metadata described => .inl (names key metadata described))
    fun _ own => .inl own

/-- A call keeps the lists among those recorded before it and those that it brings. -/
theorem KeepsLists.step (keeps : cache.KeepsLists lists) (command : CacheCommand World) :
    (cache.step command).2.KeepsLists fun key => lists key ∪ command.lists cache key := by
  have grown := keeps.grow (command.lists cache)
  have custody := ArtifactStore.custody_described fun key list =>
    list ∈ lists key ∪ command.lists cache key
  cases command with
  | compile source kernelNames now =>
      exact (grown.compileSource custody source kernelNames now
        fun _ _ _ => .inr ⟨rfl, rfl⟩).1
  | kernel name => exact grown.kernel name
  | invalidate key => exact grown.invalidate custody key
  | clearMemory => exact grown.clearMemory
  | purgeDisk => exact grown.purgeDisk custody
  | disturb world directory =>
      refine ⟨grown.memory, fun store opened key metadata described => ?_⟩
      obtain ⟨before, held, rfl⟩ := Option.map_eq_some_iff.mp opened
      exact .inr ⟨metadata, described, rfl⟩

/-- The artifacts of a cache have recorded lists, wherever they are. -/
theorem Recorded.keeps (recorded : cache.Recorded lists) : cache.KeepsLists lists := by
  induction recorded with
  | create created =>
      apply Keeps.create _ created
      intro opened held key metadata described
      exact ⟨opened, held, metadata, described, rfl⟩
  | step _ command ih => exact ih.step command

/-- What a request for kernels is answered with, after calls that brought these lists. -/
structure Resolved (cache : ArtifactCache World) (lists : ArtifactKey → Set (List String))
    (source : String) (kernelNames : List String) (artifact : Artifact)
    (after : ArtifactCache World) : Prop where
  /-- The answer has the names of this request or of an earlier one. -/
  listed : artifact.kernelNames = kernelNames ∨ artifact.kernelNames ∈ lists (cache.keyFor source)
  /-- If neither memory nor the store has the key, the names are those of this request. -/
  compiled : cache.find? (cache.keyFor source) = none →
    (cache.loadStored (cache.keyFor source)).1 = none → artifact.kernelNames = kernelNames
  /-- Right after it a name of the answer has a handle, of an artifact that exports it. -/
  handles : ∀ name, artifact.exports name →
    ∃ handle, (after.kernel name).1 = some handle ∧ handle.name = name ∧ handle.isExported
  /-- The answer exports all names that are asked for if every earlier list of the key has them. -/
  exported : (∀ list ∈ lists (cache.keyFor source), kernelNames ⊆ list) →
    ∀ name ∈ kernelNames, artifact.exports name

/-- The kernels of an answer resolve, and they are those that are asked for unless the key was
brought with a list that lacks one of them. -/
theorem compileSource_resolved (recorded : cache.Recorded lists)
    (answered : cache.compileSource source kernelNames now = (.ok artifact, after)) :
    cache.Resolved lists source kernelNames artifact after := by
  have key : artifact.key = cache.keyFor source :=
    compileSource_key (congrArg Prod.fst answered)
  have listed : artifact.kernelNames = kernelNames ∨
      artifact.kernelNames ∈ lists (cache.keyFor source) := by
    have next := (recorded.step (.compile source kernelNames now)).keeps.memory artifact
    have held : artifact ∈ (cache.step (.compile source kernelNames now)).2.artifacts := by
      simpa only [ArtifactCache.step, answered] using
        compileSource_held recorded.reachable answered
    rcases next held with before | own
    · exact .inr (key ▸ before)
    · exact .inl own.2
  refine ⟨listed, ?_, fun name => compileSource_handles recorded.reachable answered, ?_⟩
  · intro absent missing
    have outcome := compileSource_answered cache source kernelNames now
    rw [answered] at outcome
    cases outcome with
    | remembered found =>
        rw [absent] at found
        cases found
    | stored _ loaded =>
        rw [loaded] at missing
        cases missing
    | compiled => rfl
  · intro covered name member
    rw [Artifact.exports_iff]
    rcases listed with own | before
    · rwa [own]
    · exact covered _ before member

/-- A request for one of two kernels is answered with both. -/
theorem compileSource_resolved_echo : ∃ fresh : ArtifactCache Unit,
    create 1 .standard .echo () none = .ok fresh ∧
      let held := (fresh.step (.compile "s" ["f", "g"] ⟨0, 0⟩)).2
      ∃ lists artifact after, held.Recorded lists ∧
        held.compileSource "s" ["g"] ⟨0, 0⟩ = (.ok artifact, after) ∧
        artifact.kernelNames = ["f", "g"] ∧ held.Resolved lists "s" ["g"] artifact after := by
  let fresh : ArtifactCache Unit := ⟨1, .standard, .echo, (), none, [], [], 0, .zero⟩
  have created : create 1 .standard .echo () none = .ok fresh := rfl
  refine ⟨fresh, created, ?_⟩
  have compiled : fresh.compileSource "s" ["f", "g"] ⟨0, 0⟩ = _ :=
    compileSource_compiled rfl rfl rfl
  obtain ⟨after, again, -⟩ :=
    compileSource_again (.create created) compiled (.refl _) ["g"] ⟨0, 0⟩
  have recorded := (Recorded.create created).step (.compile "s" ["f", "g"] ⟨0, 0⟩)
  exact ⟨_, _, after, recorded, again, rfl, compileSource_resolved recorded again⟩

/-- A kernel that is asked for after its source was compiled with another one is not in the answer,
and nothing stands for its name. -/
theorem second_list_ignored : ∃ fresh : ArtifactCache Unit,
    create 1 .standard .echo () none = .ok fresh ∧
      let held := (fresh.step (.compile "s" ["f"] ⟨0, 0⟩)).2
      held.Reachable ∧ ∃ artifact after, held.compileSource "s" ["g"] ⟨0, 0⟩ = (.ok artifact, after) ∧
        ¬artifact.exports "g" ∧ (after.kernel "g").1 = none := by
  let fresh : ArtifactCache Unit := ⟨1, .standard, .echo, (), none, [], [], 0, .zero⟩
  have created : create 1 .standard .echo () none = .ok fresh := rfl
  refine ⟨fresh, created, .step (.create created) _, ?_⟩
  have compiled : fresh.compileSource "s" ["f"] ⟨0, 0⟩ = _ :=
    compileSource_compiled rfl rfl rfl
  obtain ⟨after, again, kept, -⟩ :=
    compileSource_again (.create created) compiled (.refl _) ["g"] ⟨0, 0⟩
  refine ⟨_, after, again, by decide, ?_⟩
  have unnamed : after.kernels.lookup "g" = none := by
    rw [kept]
    rfl
  rw [kernel, unnamed]
  rfl

end ArtifactCache

end DeviceKernels
