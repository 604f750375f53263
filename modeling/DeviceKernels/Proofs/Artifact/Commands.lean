import DeviceKernels.Artifact.Cache
import DeviceKernels.Proofs.Keyed

/-
The calls on an artifact cache. Each call is described by what it does to the memory of the cache:
it uses an entry, inserts an artifact, forgets a key, or leaves memory alone, whatever the store
and the compiler do.
-/

namespace DeviceKernels

/-- The binary of a source is its text. -/
def Compiler.echo : Compiler Unit :=
  ⟨"echo", fun world source _ => (.ok (Text.utf8 source), world)⟩

/-- The calls of a program that uses one cache, and what other programs do meanwhile. -/
inductive CacheCommand (World : Type) where
  | compile (source : String) (kernelNames : List String) (now : Instant)
  | kernel (name : String)
  | invalidate (key : ArtifactKey)
  | clearMemory
  | purgeDisk
  /-- Other programs change the world of the compiler and the directory of the store. -/
  | disturb (world : World) (directory : Directory)

inductive CacheAnswer where
  | artifact (result : Except CompileError Artifact)
  | handle (found : Option KernelHandle)
  | forgotten (result : Except CompileError Bool)
  | cleared (count : Nat)
  | purged (result : Except CompileError Nat)
  | none

/-- The key of the artifact. -/
abbrev CacheEntry.key (entry : CacheEntry) : ArtifactKey := entry.artifact.key

namespace ArtifactCache

variable {World : Type} {cache : ArtifactCache World} {key : ArtifactKey}

/-- The artifacts in memory. -/
def artifacts (cache : ArtifactCache World) : List Artifact := cache.entries.map CacheEntry.artifact

/-- The cache among other contents of the disk. -/
def disturb (cache : ArtifactCache World) (world : World) (directory : Directory) :
    ArtifactCache World :=
  { cache with world, store := cache.store.map fun store => { store with directory } }

def step (cache : ArtifactCache World) : CacheCommand World → CacheAnswer × ArtifactCache World
  | .compile source kernelNames now =>
      let (result, cache) := cache.compileSource source kernelNames now
      (.artifact result, cache)
  | .kernel name =>
      let (found, cache) := cache.kernel name
      (.handle found, cache)
  | .invalidate key =>
      let (result, cache) := cache.invalidate key
      (.forgotten result, cache)
  | .clearMemory =>
      let (count, cache) := cache.clearMemory
      (.cleared count, cache)
  | .purgeDisk =>
      let (result, cache) := cache.purgeDisk
      (.purged result, cache)
  | .disturb world directory => (.none, cache.disturb world directory)

/-- Some calls on a new cache lead to the cache. -/
inductive Reachable : ArtifactCache World → Prop
  | create {capacity : Nat} {options : CompileOptions} {compiler : Compiler World} {world : World}
      {store : Option ArtifactStore} {cache : ArtifactCache World}
      (created : ArtifactCache.create capacity options compiler world store = .ok cache) :
      Reachable cache
  | step {cache : ArtifactCache World} (reachable : Reachable cache)
      (command : CacheCommand World) : Reachable (cache.step command).2

/-- Two caches with the same settings, the same memory and the same count of evictions. -/
structure SameMemory (before after : ArtifactCache World) : Prop where
  capacity : after.capacity = before.capacity
  options : after.options = before.options
  compiler : after.compiler = before.compiler
  entries : after.entries = before.entries
  kernels : after.kernels = before.kernels
  clock : after.clock = before.clock
  evictions : after.counters.evictions = before.counters.evictions

/-- The world, the store and the other counters are no memory. -/
theorem SameMemory.quiet (cache : ArtifactCache World) (world : World)
    (store : Option ArtifactStore) (counters : CacheCounters)
    (evictions : counters.evictions = cache.counters.evictions) :
    SameMemory cache { cache with world, store, counters } :=
  ⟨rfl, rfl, rfl, rfl, rfl, rfl, evictions⟩

theorem SameMemory.refl (cache : ArtifactCache World) : SameMemory cache cache :=
  ⟨rfl, rfl, rfl, rfl, rfl, rfl, rfl⟩

theorem SameMemory.trans {first second third : ArtifactCache World}
    (one : SameMemory first second) (two : SameMemory second third) : SameMemory first third :=
  ⟨two.capacity.trans one.capacity, two.options.trans one.options,
    two.compiler.trans one.compiler, two.entries.trans one.entries,
    two.kernels.trans one.kernels, two.clock.trans one.clock, two.evictions.trans one.evictions⟩

/-- Two caches that answer for the same sources under the same limit. -/
structure SameSettings (before after : ArtifactCache World) : Prop where
  capacity : after.capacity = before.capacity
  options : after.options = before.options
  compiler : after.compiler = before.compiler

theorem SameSettings.refl (cache : ArtifactCache World) : SameSettings cache cache :=
  ⟨rfl, rfl, rfl⟩

theorem SameSettings.trans {first second third : ArtifactCache World}
    (one : SameSettings first second) (two : SameSettings second third) :
    SameSettings first third :=
  ⟨two.capacity.trans one.capacity, two.options.trans one.options,
    two.compiler.trans one.compiler⟩

theorem SameSettings.keyFor {before after : ArtifactCache World}
    (same : SameSettings before after) : after.keyFor = before.keyFor := by
  funext source
  rw [ArtifactCache.keyFor, ArtifactCache.keyFor, same.options, same.compiler]

theorem SameMemory.settings {before after : ArtifactCache World}
    (same : SameMemory before after) : SameSettings before after :=
  ⟨same.capacity, same.options, same.compiler⟩

/-- A new cache has room for an artifact and holds none. -/
theorem create_ok {capacity : Nat} {options : CompileOptions} {compiler : Compiler World}
    {world : World} {store : Option ArtifactStore}
    (created : create capacity options compiler world store = .ok cache) :
    0 < capacity ∧ cache =
      { capacity, options, compiler, world, store
        entries := []
        kernels := []
        clock := 0
        counters := .zero } := by
  rw [create] at created
  split at created
  · cases created
  case isFalse some =>
    exact ⟨Nat.pos_of_ne_zero fun none => some (beq_iff_eq.mpr none),
      (Except.ok.inj created).symm⟩

/-- A key is not found exactly if no entry has it. -/
theorem find?_none : cache.find? key = none ↔ key ∉ cache.entries.map CacheEntry.key := by
  simp [find?]

/-- An entry that is found is there, with the key. -/
theorem find?_some {entry : CacheEntry} (found : cache.find? key = some entry) :
    entry ∈ cache.entries ∧ entry.key = key :=
  Keyed.find?_some CacheEntry.key found

/-- To forget a key takes its entry away. -/
theorem forget_entries (cache : ArtifactCache World) (key : ArtifactKey) :
    (cache.forget key).2.entries = cache.entries.filter fun entry => entry.key != key := by
  rw [forget]
  cases found : cache.find? key with
  | none => exact (Keyed.filter_absent CacheEntry.key (find?_none.mp found)).symm
  | some entry => rfl

/-- To forget a key changes entries and names only. -/
theorem forget_rest (cache : ArtifactCache World) (key : ArtifactKey) :
    SameSettings cache (cache.forget key).2 ∧ (cache.forget key).2.clock = cache.clock ∧
      (cache.forget key).2.counters = cache.counters := by
  rw [forget]
  split <;> exact ⟨⟨rfl, rfl, rfl⟩, rfl, rfl⟩

/-- An eviction changes entries and names only, and is counted. -/
theorem evict_rest (cache : ArtifactCache World) (key : ArtifactKey) :
    SameSettings cache (cache.evict key) ∧ (cache.evict key).clock = cache.clock ∧
      (cache.evict key).counters.evictions = cache.counters.evictions + 1 := by
  obtain ⟨settings, clock, counters⟩ := forget_rest cache key
  refine ⟨⟨settings.capacity, settings.options, settings.compiler⟩, clock, ?_⟩
  rw [← counters]
  rfl

/-- An overflow keeps the settings. -/
theorem evictOverflow_settings (count : Nat) (cache : ArtifactCache World) :
    SameSettings cache (evictOverflow count cache) := by
  induction count generalizing cache with
  | zero => exact .refl cache
  | succ count ih =>
      rw [evictOverflow]
      split
      · exact .refl cache
      · split
        · exact .refl cache
        · exact (evict_rest cache _).1.trans (ih _)

/-- An insertion keeps the settings. -/
theorem insert_settings (cache : ArtifactCache World) (artifact : Artifact) :
    SameSettings cache (cache.insert artifact) := by
  have overflow := evictOverflow_settings (cache.adopt artifact).entries.length (cache.adopt artifact)
  exact ⟨overflow.capacity, overflow.options, overflow.compiler⟩

/-- Without its key an artifact is adopted behind all entries. -/
theorem adopt_entries {artifact : Artifact}
    (fresh : artifact.key ∉ cache.entries.map CacheEntry.key) :
    (cache.adopt artifact).entries = cache.entries ++ [⟨artifact, cache.clock⟩] :=
  congrArg (· ++ _) (Keyed.filter_absent CacheEntry.key fresh)

/-- The artifact of a valid entry has the key of its metadata. -/
theorem artifact_key {metadata : ArtifactMetadata} {binary : Bytes} {artifact : Artifact}
    (made : Artifact.ofParts metadata binary = .ok artifact) :
    ArtifactKey.ofHex? metadata.key = some artifact.key := by
  simp only [Artifact.ofParts, bind, Except.bind] at made
  repeat' split at made
  all_goals cases made
  assumption

/-- An entry of the directory that is read has the key of its name. -/
theorem readEntry_key {directory : Directory} {artifact : Artifact}
    (read : ArtifactStore.readEntry directory key = .ok artifact) : artifact.key = key := by
  simp only [ArtifactStore.readEntry, bind, Except.bind] at read
  repeat' split at read
  any_goals cases read
  rename_i metadata _ ours _ _ _ _
  have sameText : metadata.key = key.toHex := by simpa using ours
  have found := artifact_key read
  rw [sameText, ArtifactKey.ofHexToHex] at found
  exact (Option.some.inj found).symm

/-- The store answers with the artifact of the key that was asked for. -/
theorem load_key {store after : ArtifactStore} {artifact : Artifact}
    (loaded : store.load key = (.ok (some artifact), after)) : artifact.key = key := by
  rw [ArtifactStore.load] at loaded
  split at loaded
  · cases loaded
  · split at loaded
    case h_1 entry read =>
      cases loaded
      exact readEntry_key read
    case h_2 =>
      repeat' split at loaded
      all_goals cases loaded

/-- An artifact in memory is found there and used. -/
theorem lookup_some {entry : CacheEntry} (found : cache.find? key = some entry) :
    ∃ quiet, SameMemory (cache.touch key) quiet ∧
      cache.lookup key = some (entry.artifact, quiet) := by
  rw [lookup, found]
  refine ⟨_, ?_, rfl⟩
  exact .quiet (cache.touch key) _ _ _ rfl

/-- Looking into the store leaves memory alone. -/
theorem loadStored_cases (cache : ArtifactCache World) (key : ArtifactKey) :
    ∃ found quiet, cache.loadStored key = (found, quiet) ∧ SameMemory cache quiet ∧
      ∀ artifact, found = some artifact → artifact.key = key := by
  rw [loadStored]
  split
  · exact ⟨_, _, rfl, .refl _, by simp⟩
  · split
    case h_1 found store loaded =>
      refine ⟨_, _, rfl, .quiet cache _ _ _ rfl, ?_⟩
      rintro artifact rfl
      exact load_key loaded
    · exact ⟨_, _, rfl, .quiet cache _ _ _ rfl, by simp⟩

/-- A compilation fails and leaves memory alone, or it inserts an artifact of the key. -/
theorem compileMissing_cases (cache : ArtifactCache World) (key : ArtifactKey) (source : String)
    (kernelNames : List String) (now : Instant) :
    ∃ quiet, SameMemory cache quiet ∧
      ((∃ error, cache.compileMissing key source kernelNames now = (.error error, quiet)) ∨
        ∃ artifact, artifact.key = key ∧
          cache.compileMissing key source kernelNames now =
            (.ok artifact, quiet.insert artifact)) := by
  rw [compileMissing]
  cases cache.compiler.compile cache.world source cache.options with
  | mk result world =>
      cases result with
      | error error =>
          refine ⟨_, ?_, .inl ⟨error, rfl⟩⟩
          exact .quiet cache _ _ _ rfl
      | ok binary =>
          refine ⟨_, ?_, .inr ⟨_, ?_, rfl⟩⟩
          · exact .quiet cache _ _ _ rfl
          · rfl

/-- A request uses the entry of its key; without an entry it inserts an artifact of its key, or it
fails and leaves memory alone. -/
theorem compileSource_cases (cache : ArtifactCache World) (source : String)
    (kernelNames : List String) (now : Instant) :
    (∃ entry quiet, cache.find? (cache.keyFor source) = some entry ∧
      SameMemory (cache.touch (cache.keyFor source)) quiet ∧
      cache.compileSource source kernelNames now = (.ok entry.artifact, quiet)) ∨
    cache.find? (cache.keyFor source) = none ∧ ∃ quiet, SameMemory cache quiet ∧
      ((∃ error, cache.compileSource source kernelNames now = (.error error, quiet)) ∨
        ∃ artifact, artifact.key = cache.keyFor source ∧
          cache.compileSource source kernelNames now = (.ok artifact, quiet.insert artifact)) := by
  cases found : cache.find? (cache.keyFor source) with
  | some entry =>
      obtain ⟨quiet, same, hit⟩ := lookup_some found
      exact .inl ⟨entry, quiet, rfl, same, by simp only [compileSource, hit]⟩
  | none =>
      have missed : cache.lookup (cache.keyFor source) = none := by
        rw [lookup, found, Option.map_none]
      refine .inr ⟨rfl, ?_⟩
      obtain ⟨stored, quiet, loaded, same, stems⟩ :=
        loadStored_cases cache (cache.keyFor source)
      simp only [compileSource, loadOrCompile, missed, loaded]
      cases stored with
      | some artifact =>
          refine ⟨_, same.trans ?_, .inr ⟨artifact, stems artifact rfl, rfl⟩⟩
          exact .quiet quiet _ _ _ rfl
      | none =>
          obtain ⟨final, sameFinal, outcome⟩ :=
            compileMissing_cases quiet (cache.keyFor source) source kernelNames now
          exact ⟨final, same.trans sameFinal, outcome⟩

/-- A name without an entry has no handle; else its entry is used. -/
theorem kernel_cases (cache : ArtifactCache World) (name : String) :
    cache.kernel name = (none, cache) ∨
      ∃ key entry, cache.kernels.lookup name = some key ∧ cache.find? key = some entry ∧
        cache.kernel name = (some ⟨entry.artifact, name⟩, cache.touch entry.artifact.key) := by
  rw [kernel]
  split
  · exact .inl rfl
  case h_2 entry found =>
    obtain ⟨key, named, held⟩ := Option.bind_eq_some_iff.mp found
    exact .inr ⟨key, entry, named, held, rfl⟩

/-- An invalidation forgets the key, whatever the store answers. -/
theorem invalidate_forget (cache : ArtifactCache World) (key : ArtifactKey) :
    SameMemory (cache.forget key).2 (cache.invalidate key).2 := by
  rw [invalidate]
  generalize cache.forget key = outcome
  obtain ⟨forgotten, left⟩ := outcome
  dsimp only
  split
  · exact .refl left
  · exact .quiet left _ _ _ rfl

/-- Clearing the store leaves memory alone. -/
theorem purgeDisk_sameMemory (cache : ArtifactCache World) :
    SameMemory cache cache.purgeDisk.2 := by
  rw [purgeDisk]
  split
  · exact .refl cache
  · exact .quiet cache _ _ _ rfl

/-- Other programs leave memory alone. -/
theorem disturb_sameMemory (cache : ArtifactCache World) (world : World) (directory : Directory) :
    SameMemory cache (cache.disturb world directory) :=
  .quiet cache _ _ _ rfl

/-- All that one call can do to memory. -/
inductive Effect (cache : ArtifactCache World) : ArtifactCache World → Prop
  | quiet {after : ArtifactCache World} (same : SameMemory cache after) : Effect cache after
  | touch {after : ArtifactCache World} (key : ArtifactKey)
      (same : SameMemory (cache.touch key) after) : Effect cache after
  | insert {quiet : ArtifactCache World} {artifact : Artifact} (same : SameMemory cache quiet)
      (fresh : artifact.key ∉ quiet.entries.map CacheEntry.key) :
      Effect cache (quiet.insert artifact)
  | forget {after : ArtifactCache World} (key : ArtifactKey)
      (same : SameMemory (cache.forget key).2 after) : Effect cache after
  | clear : Effect cache cache.clearMemory.2

/-- A call does one of these things. -/
theorem step_effect (cache : ArtifactCache World) (command : CacheCommand World) :
    cache.Effect (cache.step command).2 := by
  cases command with
  | compile source kernelNames now =>
      rcases compileSource_cases cache source kernelNames now with
        ⟨entry, quiet, -, same, done⟩ | ⟨absent, quiet, same, ⟨error, failed⟩ | ⟨artifact, key, done⟩⟩
      · simp only [step, done]
        exact .touch _ same
      · simp only [step, failed]
        exact .quiet same
      · simp only [step, done]
        refine .insert same ?_
        rw [same.entries, key]
        exact find?_none.mp absent
  | kernel name =>
      rcases kernel_cases cache name with missed | ⟨key, entry, -, -, found⟩
      · simp only [step, missed]
        exact .quiet (.refl cache)
      · simp only [step, found]
        exact .touch _ (.refl _)
  | invalidate key => exact .forget key (invalidate_forget cache key)
  | clearMemory => exact .clear
  | purgeDisk => exact .quiet (purgeDisk_sameMemory cache)
  | disturb world directory => exact .quiet (disturb_sameMemory cache world directory)

/-- Every call keeps the settings. -/
theorem step_settings (cache : ArtifactCache World) (command : CacheCommand World) :
    SameSettings cache (cache.step command).2 := by
  have effect := step_effect cache command
  generalize (cache.step command).2 = after at effect ⊢
  cases effect with
  | quiet same => exact same.settings
  | touch key same => exact ⟨same.capacity, same.options, same.compiler⟩
  | insert same => exact same.settings.trans (insert_settings _ _)
  | forget key same => exact (forget_rest cache key).1.trans same.settings
  | clear => exact ⟨rfl, rfl, rfl⟩

/-- A use changes no artifact. -/
theorem touch_artifacts (cache : ArtifactCache World) (key : ArtifactKey) :
    (cache.touch key).artifacts = cache.artifacts := by
  rw [artifacts, artifacts, touch, List.map_map]
  apply List.map_congr_left
  intro entry _
  simp only [Function.comp_apply]
  split <;> rfl

theorem forget_artifacts (cache : ArtifactCache World) (key : ArtifactKey) :
    (cache.forget key).2.artifacts ⊆ cache.artifacts := by
  rw [artifacts, forget_entries]
  exact List.map_subset _ (List.filter_subset_self _)

/-- An overflow adds no artifact. -/
theorem evictOverflow_artifacts (count : Nat) (cache : ArtifactCache World) :
    (evictOverflow count cache).artifacts ⊆ cache.artifacts := by
  induction count generalizing cache with
  | zero => exact List.Subset.refl _
  | succ count ih =>
      rw [evictOverflow]
      split
      · exact List.Subset.refl _
      · split
        · exact List.Subset.refl _
        case h_2 entry _ =>
          exact List.Subset.trans (ih (cache.evict entry.artifact.key)) (forget_artifacts cache _)

/-- An insertion adds the inserted artifact only. -/
theorem insert_artifacts (cache : ArtifactCache World) (artifact : Artifact) :
    (cache.insert artifact).artifacts ⊆ artifact :: cache.artifacts := by
  refine List.Subset.trans (evictOverflow_artifacts _ _) ?_
  intro other member
  rw [artifacts, adopt, List.map_append, List.mem_append] at member
  rcases member with kept | added
  · exact List.mem_cons_of_mem _ (List.map_subset _ (List.filter_subset_self _) kept)
  · rw [List.mem_singleton.mp added]
    exact List.mem_cons_self

theorem forget_store (cache : ArtifactCache World) (key : ArtifactKey) :
    (cache.forget key).2.store = cache.store := by
  rw [forget]
  split <;> rfl

theorem evictOverflow_store (count : Nat) (cache : ArtifactCache World) :
    (evictOverflow count cache).store = cache.store := by
  induction count generalizing cache with
  | zero => rfl
  | succ count ih =>
      rw [evictOverflow]
      split
      · rfl
      · split
        · rfl
        · exact (ih _).trans (forget_store cache _)

/-- An insertion leaves the store alone. -/
theorem insert_store (cache : ArtifactCache World) (artifact : Artifact) :
    (cache.insert artifact).store = cache.store :=
  evictOverflow_store _ (cache.adopt artifact)

end ArtifactCache

end DeviceKernels
