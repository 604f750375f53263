import DeviceKernels.Proofs.Artifact.Healing

/-
As long as nothing that is stored under a key is thrown away, an artifact of the key that came
from the compiler or from the store stays the one that memory and store agree on, whatever is
evicted, cleared from memory or compiled meanwhile.
-/

namespace DeviceKernels

open Directory

/-- Whether a call leaves the files of a key to their cache: it does not purge the disk, it
invalidates no key or another one, and it is not one of another program. -/
def CacheCommand.Spares {World : Type} (key : ArtifactKey) : CacheCommand World → Prop
  | invalidate other => key ≠ other
  | purgeDisk => False
  | disturb _ _ => False
  | _ => True

namespace ArtifactCache

variable {World : Type} {start cache after : ArtifactCache World} {key : ArtifactKey}
  {source : String} {kernelNames : List String} {now : Instant} {artifact : Artifact}

/-- Calls that spare a key lead from one cache to another. The world of the compiler may change at
any time. -/
inductive Spared (key : ArtifactKey) (start : ArtifactCache World) : ArtifactCache World → Prop
  | refl : Spared key start start
  | step {cache : ArtifactCache World} (spared : Spared key start cache)
      (command : CacheCommand World) (spares : command.Spares key) :
      Spared key start (cache.step command).2
  | work {cache : ArtifactCache World} (spared : Spared key start cache) (world : World) :
      Spared key start { cache with world }

/-- What a cache finds under a key depends on its store only. -/
theorem loadStored_congr (same : after.store = cache.store) :
    (after.loadStored key).1 = (cache.loadStored key).1 := by
  rw [loadStored_eq, loadStored_eq, same]

/-- A change of the store that keeps what a key gives keeps what the cache finds. -/
theorem loadStored_change {change : ArtifactStore → ArtifactStore}
    (changed : after.store = cache.store.map change)
    (kept : ∀ store, ((change store).load key).1 = (store.load key).1) :
    (after.loadStored key).1 = (cache.loadStored key).1 := by
  rw [loadStored_eq, loadStored_eq, changed]
  cases cache.store with
  | none => rfl
  | some store => simp only [Option.map_some, Option.bind_some, kept]

/-- A request changes what is stored under its own key only. -/
theorem compileSource_change (cache : ArtifactCache World) (source : String)
    (kernelNames : List String) (now : Instant) : ∃ change : ArtifactStore → ArtifactStore,
      (cache.compileSource source kernelNames now).2.store = cache.store.map change ∧
        ∀ key, key ≠ cache.keyFor source → ∀ store,
          ((change store).load key).1 = (store.load key).1 := by
  have answered := compileSource_answered cache source kernelNames now
  generalize cache.compileSource source kernelNames now = outcome at answered ⊢
  obtain ⟨result, left⟩ := outcome
  cases answered with
  | remembered found => exact ⟨id, Option.map_id.symm ▸ rfl, fun _ _ _ => rfl⟩
  | refused absent loaded failed =>
      exact ⟨_, loadStored_left loaded,
        fun key different store => ArtifactStore.load_load_other different⟩
  | stored absent loaded =>
      exact ⟨_, (insert_store _ _).trans (loadStored_left loaded),
        fun key different store => ArtifactStore.load_load_other different⟩
  | @compiled binary store world absent loaded made =>
      refine ⟨fun store => ((store.load (cache.keyFor source)).2.save
        (cache.compiledArtifact source kernelNames now binary)).2, ?_, ?_⟩
      · apply (insert_store _ _).trans
        rw [persist, loadStored_left loaded, Option.map_map]
        rfl
      · intro key different store
        exact (ArtifactStore.save_load_other different).trans
          (ArtifactStore.load_load_other different)

/-- A call that spares a key is a request, or it adds nothing to memory and keeps what is stored
under the key. -/
theorem step_spares {command : CacheCommand World} (spares : command.Spares key) :
    (∃ source kernelNames now, command = .compile source kernelNames now) ∨
      (cache.step command).2.artifacts ⊆ cache.artifacts ∧
        ∃ change : ArtifactStore → ArtifactStore,
          (cache.step command).2.store = cache.store.map change ∧
            ∀ store, ((change store).load key).1 = (store.load key).1 := by
  cases command with
  | compile source kernelNames now => exact .inl ⟨source, kernelNames, now, rfl⟩
  | kernel name =>
      refine .inr ⟨step_artifacts (by simp), id, ?_, fun _ => rfl⟩
      rw [Option.map_id]
      rcases kernel_cases cache name with missed | ⟨key, entry, -, -, found⟩
      · simp only [step, missed]
        rfl
      · simp only [step, found]
        rfl
  | invalidate other =>
      exact .inr ⟨step_artifacts (by simp), _, congrArg store (invalidate_left cache other),
        fun store => ArtifactStore.remove_load_other spares⟩
  | clearMemory =>
      exact .inr ⟨step_artifacts (by simp), id, Option.map_id.symm ▸ rfl, fun _ => rfl⟩
  | purgeDisk => exact spares.elim
  | disturb world directory => exact spares.elim

/-- The store gives the artifact back, and memory holds no other one of its key. -/
structure Filed (artifact : Artifact) (cache : ArtifactCache World) : Prop where
  stored : (cache.loadStored artifact.key).1 = some artifact
  memory : ∀ held ∈ cache.artifacts, held.key = artifact.key → held = artifact

namespace Filed

/-- With the same store and fewer artifacts in memory an artifact is still filed. -/
theorem congr (filed : cache.Filed artifact) (same : after.store = cache.store)
    (fewer : after.artifacts ⊆ cache.artifacts) : after.Filed artifact :=
  ⟨(loadStored_congr same).trans filed.stored, fun held member => filed.memory held (fewer member)⟩

/-- A filed artifact answers every request for its key. The compiler is not asked, and the store
stays as it is. -/
theorem answers (filed : cache.Filed artifact) (own : cache.keyFor source = artifact.key)
    (kernelNames : List String) (now : Instant) :
    (cache.compileSource source kernelNames now).1 = .ok artifact ∧
      (cache.compileSource source kernelNames now).2.store = cache.store ∧
      (cache.compileSource source kernelNames now).2.world = cache.world := by
  cases absent : cache.find? (cache.keyFor source) with
  | some entry =>
      obtain ⟨member, key⟩ := find?_some absent
      have same := filed.memory entry.artifact (List.mem_map_of_mem member) (key.trans own)
      rw [compileSource_remembered absent, same]
      exact ⟨rfl, rfl, rfl⟩
  | none =>
      have loaded := loadStored_found filed.stored
      rw [← own] at loaded
      rw [compileSource_stored absent loaded]
      exact ⟨rfl, insert_store _ _, (insert_counters _ _).1⟩

/-- A request leaves a filed artifact filed. -/
theorem compileSource (filed : cache.Filed artifact) (source : String) (kernelNames : List String)
    (now : Instant) : (cache.compileSource source kernelNames now).2.Filed artifact := by
  by_cases own : cache.keyFor source = artifact.key
  · obtain ⟨answered, kept, -⟩ := filed.answers own kernelNames now
    refine ⟨(loadStored_congr kept).trans filed.stored, fun held member key => ?_⟩
    rcases compileSource_artifacts member with before | answer
    · exact filed.memory held before key
    · rw [answered] at answer
      exact (Except.ok.inj answer).symm
  · obtain ⟨change, changed, kept⟩ := compileSource_change cache source kernelNames now
    refine ⟨(loadStored_change changed (kept artifact.key (Ne.symm own))).trans filed.stored,
      fun held member key => ?_⟩
    rcases compileSource_artifacts member with before | answer
    · exact filed.memory held before key
    · exact absurd ((compileSource_key answer).symm.trans key) own

/-- A call that spares its key leaves a filed artifact filed. -/
theorem step (filed : cache.Filed artifact) {command : CacheCommand World}
    (spares : command.Spares artifact.key) : (cache.step command).2.Filed artifact := by
  rcases step_spares spares with ⟨source, kernelNames, now, rfl⟩ | ⟨fewer, change, changed, kept⟩
  · exact filed.compileSource source kernelNames now
  · exact ⟨(loadStored_change changed kept).trans filed.stored,
      fun held member => filed.memory held (fewer member)⟩

/-- Whatever calls come, a filed artifact stays filed as long as its key is spared. -/
theorem spared (filed : start.Filed artifact) (spared : Spared artifact.key start cache) :
    cache.Filed artifact := by
  induction spared with
  | refl => exact filed
  | step _ command spares ih => exact ih.step spares
  | work _ world ih => exact ih.congr rfl (List.Subset.refl _)

end Filed

/-- A request that memory cannot answer files its answer, if the answer can be given back and the
store can be written to. -/
theorem compileSource_files {store : ArtifactStore} (opened : cache.store = some store)
    (plain : store.directory.IsPlain) (absent : cache.find? (cache.keyFor source) = none)
    (answered : (cache.compileSource source kernelNames now).1 = .ok artifact)
    (storable : artifact.Storable) :
    (cache.compileSource source kernelNames now).2.Filed artifact := by
  have key := compileSource_key answered
  refine ⟨?_, fun held member same => ?_⟩
  · have outcome := compileSource_answered cache source kernelNames now
    generalize cache.compileSource source kernelNames now = pair at answered outcome ⊢
    obtain ⟨result, after⟩ := pair
    cases outcome with
    | remembered found =>
        rw [absent] at found
        cases found
    | refused => cases answered
    | @stored _ left _ loaded =>
        cases answered
        have found : (cache.loadStored (cache.keyFor source)).1 = some artifact :=
          congrArg Prod.fst loaded
        have same : left = cache.store :=
          congrArg (fun outcome => outcome.2.store) (loaded.symm.trans (loadStored_found found))
        rw [key]
        refine (loadStored_congr (insert_store _ _)).trans ?_
        exact (loadStored_congr same).trans found
    -- A load before the save takes files away only, so the save finds its place free.
    | compiled _ loaded made =>
        cases answered
        have saved := ArtifactStore.load_save_load (.of_plain plain _) storable
        refine (loadStored_congr (insert_store _ _)).trans ?_
        rw [loadStored_eq, persist, loadStored_left loaded, opened]
        exact congrArg (fun outcome => outcome.1.toOption.join) saved
  · rcases compileSource_artifacts member with before | answer
    · exact absurd (same.trans key) (key_ne_of_absent absent before)
    · rw [answered] at answer
      exact (Except.ok.inj answer).symm

/-- Every artifact of the key in memory that can be given back is filed. -/
def Backed (key : ArtifactKey) (cache : ArtifactCache World) : Prop :=
  ∀ held ∈ cache.artifacts, held.key = key → held.Storable → cache.Filed held

namespace Backed

/-- A key that is not in memory is backed. -/
theorem of_absent (absent : cache.find? key = none) : cache.Backed key := by
  intro held member own
  exact absurd own (key_ne_of_absent absent member)

/-- The answer to a request for a backed key is filed. -/
theorem files (backed : cache.Backed key) {store : ArtifactStore} (opened : cache.store = some store)
    (plain : store.directory.IsPlain)
    (answered : (cache.compileSource source kernelNames now).1 = .ok artifact)
    (own : artifact.key = key) (storable : artifact.Storable) :
    (cache.compileSource source kernelNames now).2.Filed artifact := by
  cases absent : cache.find? (cache.keyFor source) with
  | none => exact compileSource_files opened plain absent answered storable
  | some entry =>
      have same : entry.artifact = artifact := by
        rw [compileSource_remembered absent] at answered
        exact Except.ok.inj answered
      have member : artifact ∈ cache.artifacts :=
        same ▸ List.mem_map_of_mem (find?_some absent).1
      exact (backed artifact member own storable).compileSource source kernelNames now

/-- A call that spares a backed key leaves it backed. -/
theorem step (backed : cache.Backed key) {store : ArtifactStore} (opened : cache.store = some store)
    (plain : store.directory.IsPlain) {command : CacheCommand World} (spares : command.Spares key) :
    (cache.step command).2.Backed key := by
  intro held member own storable
  by_cases before : held ∈ cache.artifacts
  · subst own
    exact (backed held before rfl storable).step spares
  -- What memory did not hold before the call is the answer to a request.
  · rcases step_spares spares with ⟨source, kernelNames, now, rfl⟩ | ⟨fewer, -⟩
    · have answer := (compileSource_artifacts member).resolve_left before
      exact backed.files opened plain answer own storable
    · exact absurd (fewer member) before

end Backed

/-- The settings of an owned cache give its keys. -/
theorem Owned.keyFor {options : CompileOptions} {compiler : Compiler World} {sources : Set String}
    (owned : Owned options compiler sources cache) (source : String) :
    cache.keyFor source = .compute source options compiler.name := by
  rw [ArtifactCache.keyFor, owned.settings.1, owned.settings.2]

namespace Spared

variable {options : CompileOptions} {compiler : Compiler World}

/-- Sparing calls of a program on its own cache leave it its own. -/
theorem owned (spared : Spared key start cache) (owned : Owned options compiler Set.univ start) :
    Owned options compiler Set.univ cache := by
  induction spared with
  | refl => exact owned
  | step _ command spares ih =>
      apply ih.step command
      cases command with
      | disturb => exact spares.elim
      | compile => exact Set.mem_univ _
      | _ => trivial
  | work _ world ih => exact ih.work world

/-- Sparing calls keep the store open. -/
theorem opened (spared : Spared key start cache) (opened : start.store.isSome) :
    cache.store.isSome := by
  induction spared with
  | refl => exact opened
  | @step cache _ command spares ih =>
      rcases step_spares spares with ⟨source, kernelNames, now, rfl⟩ | ⟨-, change, changed, -⟩
      · obtain ⟨change, changed, -⟩ := compileSource_change cache source kernelNames now
        have same : (cache.step (.compile source kernelNames now)).2.store = _ := changed
        rwa [same, Option.isSome_map]
      · rwa [changed, Option.isSome_map]
  | work _ world ih => exact ih

/-- A key that memory lacked at the start is backed as long as it is spared. -/
theorem backed (spared : Spared key start cache) (owned : Owned options compiler Set.univ start)
    (opened : start.store.isSome) (absent : start.find? key = none) : cache.Backed key := by
  induction spared with
  | refl => exact .of_absent absent
  | step before command spares ih =>
      obtain ⟨store, held⟩ := Option.isSome_iff_exists.mp (before.opened opened)
      exact ih.step held ((before.owned owned).plain held) spares
  | work _ world ih =>
      intro held member own storable
      exact (ih held member own storable).congr rfl (List.Subset.refl _)

end Spared

end ArtifactCache

end DeviceKernels
