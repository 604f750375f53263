import DeviceKernels.Proofs.Artifact.Survival

/-
Requests on which the compiler fails. Such a request has looked into memory and into the store and
may have thrown a corrupt entry of its key away.
-/

namespace DeviceKernels

open Directory

namespace ArtifactStore

variable {store after : ArtifactStore} {key other : ArtifactKey} {artifact : Artifact}

/-- With fewer files a load gives no other artifact. -/
theorem load_shrinks (less : Shrinks store.directory after.directory)
    (loaded : (after.load key).1 = .ok (some artifact)) :
    (store.load key).1 = .ok (some artifact) := by
  have read := load_some.mp loaded
  obtain ⟨contents, executable, description⟩ := find?_of_readEntry read
  obtain ⟨mode, binary⟩ := readEntry_binary read
  rw [← loaded]
  apply load_congr
  · rw [less _ _ description, description]
  · rw [less _ _ binary, binary]

/-- A load stays at its path. -/
theorem load_path (store : ArtifactStore) (key : ArtifactKey) :
    (store.load key).2.path = store.path := by
  have removed : (store.remove key).2.path = store.path := by
    rw [remove]
    repeat' split
    all_goals rfl
  rw [load]
  split
  · rfl
  · split
    · rfl
    · split
      · split
        case h_1 done =>
          rw [done] at removed
          exact removed
        case h_2 failed =>
          rw [failed] at removed
          exact removed
      · rfl

/-- No artifact is loaded under the key. -/
def Lacks (key : ArtifactKey) (store : ArtifactStore) : Prop :=
  ∀ artifact, (store.load key).1 ≠ .ok (some artifact)

/-- Saves of artifacts with other keys bring nothing under the key. -/
theorem lacks_custody (key : ArtifactKey) : Custody (Lacks key) fun artifact => key ≠ artifact.key where
  shrinks lacks less artifact loaded := lacks artifact (load_shrinks less loaded)
  save lacks different artifact loaded := lacks artifact (save_load_other different ▸ loaded)
  loaded := by
    rintro store other artifact lacks loaded rfl
    rw [ArtifactCache.readEntry_key (load_some.mp loaded)] at lacks
    exact lacks artifact loaded

/-- A description that breaks off is thrown away with its binary. -/
theorem overwritten_truncated (artifact : Artifact) :
    (overwritten artifact (Text.utf8 "\x7b")).contains artifact.key ∧
      ∃ left, (overwritten artifact (Text.utf8 "\x7b")).load artifact.key =
        (.error (.metadata .unreadable), left) ∧ left.contains artifact.key = false := by
  obtain ⟨description, binary, -⟩ := find?_overwritten artifact (Text.utf8 "\x7b")
  have unreadable : ArtifactMetadata.parse "\x7b" = .error (.metadata .unreadable) := by
    decide +kernel
  have failed : readEntry (overwritten artifact (Text.utf8 "\x7b")).directory artifact.key =
      .error (.metadata .unreadable) := by
    rw [readEntry, readText_utf8 description]
    simp only [Except.mapError, bind, Except.bind, unreadable]
  have held : (overwritten artifact (Text.utf8 "\x7b")).directory.holds
      (metadataName artifact.key) := by
    rw [holds, description]
    rfl
  refine ⟨?_, _, load_corrupt held (by simp [description]) (by simp [binary]) failed rfl, ?_⟩
  · simp [contains, holds, description, binary]
  · simp [contains, holds, findEraseSame]

end ArtifactStore

/-- The call is no request for the key and not one of another program. -/
def CacheCommand.Elsewhere {World : Type} (key : ArtifactKey) (cache : ArtifactCache World) :
    CacheCommand World → Prop
  | compile source _ _ => key ≠ cache.keyFor source
  | disturb _ _ => False
  | _ => True

/-- A compiler that makes nothing. -/
def Compiler.refusing : Compiler Unit :=
  ⟨"refusing", fun world _ _ => (.error (.compilerFailed "refusing" none ""), world)⟩

namespace ArtifactCache

section

variable {World : Type} {start cache after : ArtifactCache World} {key : ArtifactKey}
  {source : String}

/-- Neither memory nor the store has an artifact of the key. -/
def Lacks (key : ArtifactKey) (cache : ArtifactCache World) : Prop :=
  cache.Keeps (ArtifactStore.Lacks key) fun artifact => key ≠ artifact.key

/-- Calls elsewhere lead from one cache to another. The world of the compiler may change at any
time. -/
inductive Unasked (key : ArtifactKey) (start : ArtifactCache World) : ArtifactCache World → Prop
  | refl : Unasked key start start
  | step {cache : ArtifactCache World} (unasked : Unasked key start cache)
      (command : CacheCommand World) (elsewhere : command.Elsewhere key cache) :
      Unasked key start (cache.step command).2
  | work {cache : ArtifactCache World} (unasked : Unasked key start cache) (world : World) :
      Unasked key start { cache with world }

namespace Lacks

/-- A key that is lacking is not found in memory. -/
theorem absent (lacks : cache.Lacks key) : cache.find? key = none := by
  rw [find?_none, List.mem_map]
  rintro ⟨entry, member, own⟩
  exact lacks.memory entry.artifact (List.mem_map_of_mem member) own.symm

/-- A key that is lacking is not found in the store. -/
theorem missing (lacks : cache.Lacks key) : (cache.loadStored key).1 = none := by
  have none := (lacks.loadStored (ArtifactStore.lacks_custody key) key).2
  cases found : (cache.loadStored key).1 with
  | none => rfl
  | some artifact =>
      obtain ⟨store, loaded⟩ : ∃ store, cache.loadStored key = (some artifact, store) :=
        ⟨_, Prod.ext found rfl⟩
      exact absurd (loadStored_key loaded).symm (none artifact found)

/-- A key that was neither in memory nor in the store is lacking after the look, whatever the
compiler and the counters make of it. -/
theorem of_missing {store : Option ArtifactStore} (absent : cache.find? key = none)
    (loaded : cache.loadStored key = (none, { cache with store })) (world : World)
    (counters : CacheCounters) : Lacks key { cache with store, world, counters } where
  memory := fun _ member => (key_ne_of_absent absent member).symm
  stored := by
    rintro _ opened artifact given
    obtain ⟨before, held, rfl⟩ :=
      Option.map_eq_some_iff.mp ((loadStored_left loaded).symm.trans opened)
    have found := ArtifactStore.load_shrinks (ArtifactStore.shrinks_load before _) given
    rw [← loadStored_some held, loaded] at found
    cases found

/-- A call elsewhere leaves the key lacking. -/
theorem step (lacks : cache.Lacks key) {command : CacheCommand World}
    (elsewhere : command.Elsewhere key cache) : (cache.step command).2.Lacks key := by
  have custody := ArtifactStore.lacks_custody key
  cases command with
  | compile source kernelNames now =>
      exact (lacks.compileSource custody source kernelNames now fun _ _ _ => elsewhere).1
  | kernel name => exact lacks.kernel name
  | invalidate other => exact lacks.invalidate custody other
  | clearMemory => exact lacks.clearMemory
  | purgeDisk => exact lacks.purgeDisk custody
  | disturb => exact elsewhere.elim

/-- Until it is asked for a lacking key stays lacking. -/
theorem unasked (lacks : start.Lacks key) (unasked : Unasked key start cache) :
    cache.Lacks key := by
  induction unasked with
  | refl => exact lacks
  | step _ command elsewhere ih => exact ih.step elsewhere
  | work _ world ih => exact ⟨ih.memory, ih.stored⟩

end Lacks

/-- Calls elsewhere keep the settings. -/
theorem Unasked.settings (unasked : Unasked key start cache) : SameSettings start cache := by
  induction unasked with
  | refl => exact .refl start
  | step _ command _ ih => exact ih.trans (step_settings _ command)
  | work _ world ih => exact ⟨ih.capacity, ih.options, ih.compiler⟩

end

variable {World : Type} {cache : ArtifactCache (World × Nat)} {compiler : Compiler World}
  {source : String} {kernelNames : List String} {now : Instant} {error : CompileError}

/-- What a failed request leaves of a cache. -/
structure Untraced (cache : ArtifactCache (World × Nat)) (source : String)
    (error : CompileError) (after : ArtifactCache (World × Nat)) : Prop where
  /-- The error is the one of the compiler, which was invoked once. -/
  failed : (cache.compiler.compile cache.world source cache.options).1 = .error error
  invoked : after.world.2 = cache.world.2 + 1
  /-- Memory holds the same artifacts in the same order of use, with the same names. -/
  memory : SameMemory cache after
  /-- One miss and one failure more were counted. -/
  counters : after.counters = { cache.counters with
    misses := cache.counters.misses + 1
    compileFailures := cache.counters.compileFailures + 1 }
  /-- The store is the same but for the files of the key, of which none is new. -/
  store : ∀ store, cache.store = some store → ∃ left, after.store = some left ∧
    left.path = store.path ∧ Shrinks store.directory left.directory ∧
      ∀ name, name ≠ ArtifactStore.metadataName (cache.keyFor source) →
        name ≠ ArtifactStore.binaryName (cache.keyFor source) →
          left.directory.find? name = store.directory.find? name
  unopened : cache.store = none → after.store = none
  /-- Other keys give what they gave. -/
  others : ∀ key, key ≠ cache.keyFor source →
    (after.loadStored key).1 = (cache.loadStored key).1
  /-- Nothing is loaded under the key. -/
  lacking : ∀ store artifact, after.store = some store →
    (store.load (cache.keyFor source)).1 ≠ .ok (some artifact)
  /-- The next request for the source invokes the compiler again, whatever came between that did not
  ask for its key. -/
  again : ∀ later, Unasked (cache.keyFor source) after later →
    ∀ (kernelNames : List String) (now : Instant),
      (later.compileSource source kernelNames now).2.world.2 = later.world.2 + 1

/-- A request that fails leaves no trace but two counts. -/
theorem compileSource_untraced (counted : cache.compiler = compiler.counted)
    (failed : (cache.compileSource source kernelNames now).1 = .error error) :
    cache.Untraced source error (cache.compileSource source kernelNames now).2 := by
  have outcome := compileSource_answered cache source kernelNames now
  generalize cache.compileSource source kernelNames now = pair at failed outcome ⊢
  obtain ⟨result, after⟩ := pair
  cases outcome with
  | remembered => cases failed
  | stored => cases failed
  | compiled => cases failed
  | @refused reason store world absent loaded refused =>
      cases failed
      have left := loadStored_left loaded
      have lacks := Lacks.of_missing absent loaded world { cache.counters with
        misses := cache.counters.misses + 1
        compileFailures := cache.counters.compileFailures + 1 }
      refine ⟨congrArg Prod.fst refused, ?_, .quiet _ _ _ _ rfl, rfl, ?_, ?_, ?_, ?_, ?_⟩
      · rw [counted] at refused
        exact Compiler.counted_invocations refused
      · intro before held
        rw [left, held]
        exact ⟨_, rfl, ArtifactStore.load_path before _, ArtifactStore.shrinks_load before _,
          fun name => ArtifactStore.find?_load_other⟩
      · intro unopened
        rw [left, unopened]
        rfl
      · intro key different
        exact loadStored_change left fun store => ArtifactStore.load_load_other different
      · exact fun store artifact opened => lacks.stored store opened artifact
      · intro later unasked kernelNames now
        have settings := unasked.settings
        have still := lacks.unasked unasked
        have own : later.keyFor source = cache.keyFor source := congrFun settings.keyFor source
        rw [← own] at still
        exact compileSource_invokes (settings.compiler.trans counted) still.absent still.missing
          kernelNames now

/-- An entry that cannot be loaded is not found. -/
theorem loadStored_failed {store left : ArtifactStore} {key : ArtifactKey} {fault : CompileError}
    (opened : cache.store = some store) (failed : store.load key = (.error fault, left)) :
    cache.loadStored key = (none, { cache with store := some left }) := by
  rw [loadStored_eq, opened, Option.bind_some, Option.map_some, failed]
  rfl

/-- Without an artifact in memory or in the store the error of the compiler is the answer. -/
theorem compileSource_refused {store : Option ArtifactStore} {world : World × Nat}
    (absent : cache.find? (cache.keyFor source) = none)
    (loaded : cache.loadStored (cache.keyFor source) = (none, { cache with store }))
    (refused : cache.compiler.compile cache.world source cache.options = (.error error, world)) :
    cache.compileSource source kernelNames now = (.error error, { cache with
      store
      world
      counters := { cache.counters with
        misses := cache.counters.misses + 1
        compileFailures := cache.counters.compileFailures + 1 } }) := by
  simp only [compileSource, loadOrCompile, lookup, absent, Option.map_none, loaded, compileMissing,
    refused]

/-- A compiler that fails on a truncated entry of its key. The entry is gone after the request. -/
theorem compileSource_untraced_truncated : ∃ (fresh : ArtifactCache (Unit × Nat))
    (store left : ArtifactStore), fresh.Reachable ∧
      fresh.compiler = Compiler.refusing.counted ∧
      fresh.store = some store ∧ store.contains (fresh.keyFor "s") ∧
      (fresh.compileSource "s" ["f"] ⟨0, 0⟩).1 = .error (.compilerFailed "refusing" none "") ∧
      (fresh.compileSource "s" ["f"] ⟨0, 0⟩).2.store = some left ∧
      left.contains (fresh.keyFor "s") = false ∧
      fresh.Untraced "s" (.compilerFailed "refusing" none "")
        (fresh.compileSource "s" ["f"] ⟨0, 0⟩).2 := by
  let stale : Artifact :=
    { ArtifactStore.edition 1 with key := .compute "s" .standard Compiler.refusing.counted.name }
  let store := ArtifactStore.overwritten stale (Text.utf8 "\x7b")
  have created : create 1 .standard Compiler.refusing.counted ((), 0) (some store) = .ok _ := rfl
  obtain ⟨full, left, loaded, gone⟩ := ArtifactStore.overwritten_truncated stale
  let fresh : ArtifactCache (Unit × Nat) :=
    ⟨1, .standard, Compiler.refusing.counted, ((), 0), some store, [], [], 0, .zero⟩
  have looked : fresh.loadStored (fresh.keyFor "s") = (none, { fresh with store := some left }) :=
    loadStored_failed rfl loaded
  have done : fresh.compileSource "s" ["f"] ⟨0, 0⟩ = _ := compileSource_refused rfl looked rfl
  exact ⟨fresh, store, left, .create created, rfl, rfl, full, congrArg Prod.fst done,
    congrArg (fun outcome => outcome.2.store) done, gone,
    compileSource_untraced rfl (congrArg Prod.fst done)⟩

end ArtifactCache

end DeviceKernels
