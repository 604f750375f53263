import DeviceKernels.Proofs.Artifact.Commands

/-
How a request is answered. A request finds its key in memory, or its artifact in the store, or it
runs the compiler once, which fails or makes an artifact.
-/

namespace DeviceKernels.ArtifactCache

variable {World : Type} {cache : ArtifactCache World} {source : String} {kernelNames : List String}
  {now : Instant}

/-- A cache finds what its store loads, where an error is nothing found, and keeps the store that
the load leaves. -/
theorem loadStored_eq (cache : ArtifactCache World) (key : ArtifactKey) :
    cache.loadStored key = (cache.store.bind fun store => (store.load key).1.toOption.join,
      { cache with store := cache.store.map fun store => (store.load key).2 }) := by
  obtain ⟨capacity, options, compiler, world, store, entries, kernels, clock, counters⟩ := cache
  cases store with
  | none => rfl
  | some store =>
      simp only [loadStored, Option.bind_some, Option.map_some]
      cases store.load key with
      | mk result left => cases result <;> rfl

/-- A cache finds an artifact exactly if its store loads it. -/
theorem loadStored_some {store : ArtifactStore} (opened : cache.store = some store)
    {key : ArtifactKey} {artifact : Artifact} :
    (cache.loadStored key).1 = some artifact ↔ (store.load key).1 = .ok (some artifact) := by
  rw [loadStored_eq, opened, Option.bind_some]
  cases (store.load key).1 with
  | error error => simp [Except.toOption]
  | ok answer => simp [Except.toOption]

/-- Looking into the store changes the store only. -/
theorem loadStored_store (cache : ArtifactCache World) (key : ArtifactKey) :
    ∃ found store, cache.loadStored key = (found, { cache with store }) :=
  ⟨_, _, loadStored_eq cache key⟩

/-- The store that is left is the one that the load leaves. -/
theorem loadStored_left {key : ArtifactKey} {found : Option Artifact}
    {store : Option ArtifactStore}
    (loaded : cache.loadStored key = (found, { cache with store })) :
    store = cache.store.map fun store => (store.load key).2 := by
  rw [loadStored_eq] at loaded
  exact (congrArg (fun outcome => outcome.2.store) loaded).symm

/-- What the store answers with has the key that was asked for. -/
theorem loadStored_key {key : ArtifactKey} {artifact : Artifact} {after : ArtifactCache World}
    (loaded : cache.loadStored key = (some artifact, after)) : artifact.key = key := by
  obtain ⟨found, quiet, same, -, stems⟩ := loadStored_cases cache key
  exact stems artifact (congrArg Prod.fst (same.symm.trans loaded))

/-- An invalidation forgets the key, removes it from the store, and changes nothing else. -/
theorem invalidate_left (cache : ArtifactCache World) (key : ArtifactKey) :
    (cache.invalidate key).2 = { (cache.forget key).2 with
      store := cache.store.map fun store => (store.remove key).2 } := by
  rw [invalidate, ← forget_store cache key]
  generalize cache.forget key = outcome
  obtain ⟨forgotten, capacity, options, compiler, world, store, rest⟩ := outcome
  cases store <;> rfl

/-- An invalidation forgets the key, and else changes the store only. -/
theorem invalidate_store (cache : ArtifactCache World) (key : ArtifactKey) :
    ∃ store, (cache.invalidate key).2 = { (cache.forget key).2 with store } :=
  ⟨_, invalidate_left cache key⟩

/-- To purge the disk clears the store and changes nothing else. -/
theorem purgeDisk_left (cache : ArtifactCache World) : cache.purgeDisk.2 = { cache with
    store := cache.store.map fun store => store.clear.2 } := by
  obtain ⟨capacity, options, compiler, world, store, rest⟩ := cache
  cases store <;> rfl

/-- Clearing the store changes the store only. -/
theorem purgeDisk_store (cache : ArtifactCache World) :
    ∃ store, cache.purgeDisk.2 = { cache with store } :=
  ⟨_, purgeDisk_left cache⟩

/-- To forget a key leaves the world alone. -/
theorem forget_world (cache : ArtifactCache World) (key : ArtifactKey) :
    (cache.forget key).2.world = cache.world := by
  rw [forget]
  split <;> rfl

/-- The artifact that the cache makes of a compiled binary. -/
def compiledArtifact (cache : ArtifactCache World) (source : String) (kernelNames : List String)
    (now : Instant) (binary : Bytes) : Artifact where
  key := cache.keyFor source
  kernelNames := kernelNames
  arch := cache.options.arch
  compiler := cache.compiler.name
  createdAt := now
  binary := binary

/-- The answers to a request, each with the cache that it leaves. -/
inductive Answered (cache : ArtifactCache World) (source : String) (kernelNames : List String)
    (now : Instant) : Except CompileError Artifact → ArtifactCache World → Prop
  | remembered {entry : CacheEntry} (found : cache.find? (cache.keyFor source) = some entry) :
      Answered cache source kernelNames now (.ok entry.artifact)
        { cache.touch (cache.keyFor source) with
          counters := { cache.counters with memoryHits := cache.counters.memoryHits + 1 } }
  | stored {artifact : Artifact} {store : Option ArtifactStore}
      (absent : cache.find? (cache.keyFor source) = none)
      (loaded : cache.loadStored (cache.keyFor source) = (some artifact, { cache with store })) :
      Answered cache source kernelNames now (.ok artifact)
        (insert { cache with
          store
          counters := { cache.counters with diskHits := cache.counters.diskHits + 1 } } artifact)
  | refused {error : CompileError} {store : Option ArtifactStore} {world : World}
      (absent : cache.find? (cache.keyFor source) = none)
      (loaded : cache.loadStored (cache.keyFor source) = (none, { cache with store }))
      (failed : cache.compiler.compile cache.world source cache.options = (.error error, world)) :
      Answered cache source kernelNames now (.error error)
        { cache with
          store
          world
          counters := { cache.counters with
            misses := cache.counters.misses + 1
            compileFailures := cache.counters.compileFailures + 1 } }
  | compiled {binary : Bytes} {store : Option ArtifactStore} {world : World}
      (absent : cache.find? (cache.keyFor source) = none)
      (loaded : cache.loadStored (cache.keyFor source) = (none, { cache with store }))
      (made : cache.compiler.compile cache.world source cache.options = (.ok binary, world)) :
      Answered cache source kernelNames now
        (.ok (cache.compiledArtifact source kernelNames now binary))
        (insert (persist { cache with
            store
            world
            counters := { cache.counters with
              misses := cache.counters.misses + 1
              compiles := cache.counters.compiles + 1 } }
            (cache.compiledArtifact source kernelNames now binary))
          (cache.compiledArtifact source kernelNames now binary))

/-- Every request is answered in one of these ways. -/
theorem compileSource_answered (cache : ArtifactCache World) (source : String)
    (kernelNames : List String) (now : Instant) :
    Answered cache source kernelNames now (cache.compileSource source kernelNames now).1
      (cache.compileSource source kernelNames now).2 := by
  cases absent : cache.find? (cache.keyFor source) with
  | some entry =>
      simp only [compileSource, lookup, absent, Option.map_some]
      exact .remembered absent
  | none =>
      have missed : cache.lookup (cache.keyFor source) = none := by
        rw [lookup, absent, Option.map_none]
      obtain ⟨found, store, loaded⟩ := loadStored_store cache (cache.keyFor source)
      simp only [compileSource, loadOrCompile, missed, loaded]
      cases found with
      | some artifact => exact .stored absent loaded
      | none =>
          cases made : cache.compiler.compile cache.world source cache.options with
          | mk result world =>
              simp only [compileMissing, made]
              cases result with
              | error error => exact .refused absent loaded made
              | ok binary => exact .compiled absent loaded made

/-- A key in memory is answered with its entry, which is used. -/
theorem compileSource_remembered {entry : CacheEntry}
    (found : cache.find? (cache.keyFor source) = some entry) :
    cache.compileSource source kernelNames now = (.ok entry.artifact,
      { cache.touch (cache.keyFor source) with
        counters := { cache.counters with memoryHits := cache.counters.memoryHits + 1 } }) := by
  simp only [compileSource, lookup, found, Option.map_some]
  rfl

/-- A key that only the store has is answered from the store. -/
theorem compileSource_stored {artifact : Artifact} {quiet : ArtifactCache World}
    (absent : cache.find? (cache.keyFor source) = none)
    (loaded : cache.loadStored (cache.keyFor source) = (some artifact, quiet)) :
    cache.compileSource source kernelNames now = (.ok artifact, insert { quiet with
      counters := { quiet.counters with diskHits := quiet.counters.diskHits + 1 } } artifact) := by
  simp only [compileSource, loadOrCompile, lookup, absent, Option.map_none, loaded]

/-- A key that neither memory nor the store has is compiled, saved and inserted. -/
theorem compileSource_compiled {binary : Bytes} {store : Option ArtifactStore} {world : World}
    (absent : cache.find? (cache.keyFor source) = none)
    (loaded : cache.loadStored (cache.keyFor source) = (none, { cache with store }))
    (made : cache.compiler.compile cache.world source cache.options = (.ok binary, world)) :
    cache.compileSource source kernelNames now =
      (.ok (cache.compiledArtifact source kernelNames now binary),
        insert (persist { cache with
            store
            world
            counters := { cache.counters with
              misses := cache.counters.misses + 1
              compiles := cache.counters.compiles + 1 } }
            (cache.compiledArtifact source kernelNames now binary))
          (cache.compiledArtifact source kernelNames now binary)) := by
  simp only [compileSource, loadOrCompile, lookup, absent, Option.map_none, loaded, compileMissing,
    made]
  rfl

/-- The artifact that answers a request has the key of its source. -/
theorem compileSource_key {artifact : Artifact}
    (answered : (cache.compileSource source kernelNames now).1 = .ok artifact) :
    artifact.key = cache.keyFor source := by
  have outcome := compileSource_answered cache source kernelNames now
  rw [answered] at outcome
  generalize (cache.compileSource source kernelNames now).2 = left at outcome
  cases outcome with
  | remembered found => exact (find?_some found).2
  | stored absent loaded => exact loadStored_key loaded
  | compiled absent loaded made => rfl

end DeviceKernels.ArtifactCache
