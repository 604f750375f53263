import DeviceKernels.Proofs.Artifact.Conservation
import DeviceKernels.Proofs.Artifact.Damage
import DeviceKernels.Proofs.Artifact.Presence

/-
Whatever stands in the two files of a key, a request that the compiler can answer leaves the same
artifact in memory and in the store: the stored one if a load gives it, else the compiled one,
which takes the place of whatever was there.
-/

namespace DeviceKernels

open Directory

namespace ArtifactStore

variable {store after : ArtifactStore} {key : ArtifactKey} {artifact : Artifact}

/-- The files of a key can be written: no directory has the name of one of the two, or the name that
a file has on its way to them. -/
structure Writable (store : ArtifactStore) (key : ArtifactKey) : Prop where
  temporary : store.directory.find? temporaryName ≠ some .directory
  description : store.directory.find? (metadataName key) ≠ some .directory
  binary : store.directory.find? (binaryName key) ≠ some .directory

/-- With fewer files the files of a key can still be written. -/
theorem Writable.shrinks (writable : store.Writable key)
    (less : Shrinks store.directory after.directory) : after.Writable key where
  temporary found := writable.temporary (less _ _ found)
  description found := writable.description (less _ _ found)
  binary found := writable.binary (less _ _ found)

/-- An artifact that can be given back is loaded after its save, whatever its files held before. -/
theorem save_load (writable : store.Writable artifact.key) (storable : artifact.Storable) :
    (store.save artifact).2.load artifact.key = (.ok (some artifact), (store.save artifact).2) := by
  apply load_artifact
  rw [save_free writable.temporary writable.binary writable.description]
  exact load_withFiles storable

/-- So it is when a load came before the save. -/
theorem load_save_load (writable : store.Writable artifact.key) (storable : artifact.Storable) :
    ((store.load artifact.key).2.save artifact).2.load artifact.key =
      (.ok (some artifact), ((store.load artifact.key).2.save artifact).2) :=
  save_load (writable.shrinks (shrinks_load store artifact.key)) storable

/-- In a plain directory the files of every key can be written. -/
theorem Writable.of_plain (plain : store.directory.IsPlain) (key : ArtifactKey) :
    store.Writable key :=
  ⟨plain.regular _, plain.regular _, plain.regular _⟩

end ArtifactStore

namespace ArtifactCache

/-- To find an artifact leaves the cache as it is. -/
theorem loadStored_found {World : Type} {cache : ArtifactCache World} {key : ArtifactKey}
    {artifact : Artifact} (found : (cache.loadStored key).1 = some artifact) :
    cache.loadStored key = (some artifact, cache) := by
  cases opened : cache.store with
  | none =>
      rw [loadStored_eq, opened] at found
      cases found
  | some store =>
      have loaded := ArtifactStore.load_artifact ((loadStored_some opened).mp found)
      rw [loadStored_eq, opened, Option.bind_some, Option.map_some, loaded, ← opened]
      rfl

variable {World : Type} {cache : ArtifactCache (World × Nat)} {compiler : Compiler World}
  {store : ArtifactStore} {source : String} {kernelNames : List String} {now : Instant}

/-- A request is answered with an artifact of its key that memory and the store both hold after it,
and the compiler was invoked exactly if the store had none to load. -/
structure Heals (cache : ArtifactCache (World × Nat)) (store : ArtifactStore) (source : String)
    (kernelNames : List String) (now : Instant) (artifact : Artifact) : Prop where
  answered : (cache.compileSource source kernelNames now).1 = .ok artifact
  key : artifact.key = cache.keyFor source
  held : ∃ entry, (cache.compileSource source kernelNames now).2.find? (cache.keyFor source) =
    some entry ∧ entry.artifact = artifact
  /-- The store loads the artifact, and loading it changes nothing. -/
  stored : ∃ left, (cache.compileSource source kernelNames now).2.store = some left ∧
    left.load (cache.keyFor source) = (.ok (some artifact), left)
  /-- What the store loads is the answer, and the compiler is left alone. -/
  loaded : ∀ found, (store.load (cache.keyFor source)).1 = .ok (some found) →
    found = artifact ∧ (cache.compileSource source kernelNames now).2.world = cache.world
  /-- Without it the compiler is invoked once, and the answer has the kernels that were asked for. -/
  compiled : (∀ found, (store.load (cache.keyFor source)).1 ≠ .ok (some found)) →
    artifact.kernelNames = kernelNames ∧
      (cache.compileSource source kernelNames now).2.world.2 = cache.world.2 + 1

/-- A successful compilation makes an artifact that can be given back. -/
theorem compiledArtifact_storable {World : Type} (cache : ArtifactCache World) {binary : Bytes}
    (named : kernelNames ≠ []) (dated : now.InRange) (small : binary.length < UInt64.size) :
    (cache.compiledArtifact source kernelNames now binary).Storable :=
  Artifact.storable named ⟨dated, small⟩

/-- A request that neither memory nor the store answers invokes the compiler, whatever it says. -/
theorem compileSource_invokes (counted : cache.compiler = compiler.counted)
    (absent : cache.find? (cache.keyFor source) = none)
    (missing : (cache.loadStored (cache.keyFor source)).1 = none) (kernelNames : List String)
    (now : Instant) :
    (cache.compileSource source kernelNames now).2.world.2 = cache.world.2 + 1 := by
  have outcome := compileSource_answered cache source kernelNames now
  generalize cache.compileSource source kernelNames now = pair at outcome ⊢
  obtain ⟨result, after⟩ := pair
  cases outcome with
  | remembered found =>
      rw [absent] at found
      cases found
  | stored _ loaded =>
      rw [loaded] at missing
      cases missing
  | refused _ _ failed =>
      rw [counted] at failed
      exact Compiler.counted_invocations failed
  | compiled _ _ made =>
      rw [counted] at made
      exact (congrArg Prod.snd (insert_counters _ _).1).trans (Compiler.counted_invocations made)

/-- A stored artifact is the answer, and nothing is compiled. -/
theorem heals_loaded {artifact : Artifact} (reachable : cache.Reachable)
    (opened : cache.store = some store) (absent : cache.find? (cache.keyFor source) = none)
    (loaded : (store.load (cache.keyFor source)).1 = .ok (some artifact)) :
    cache.Heals store source kernelNames now artifact := by
  have whole := ArtifactStore.load_artifact loaded
  have own := load_key whole
  have looked := loadStored_found ((loadStored_some opened).mpr loaded)
  have done : cache.compileSource source kernelNames now = _ := compileSource_stored absent looked
  have held := compileSource_found reachable done
  rw [own] at held
  refine ⟨by rw [done], own, by rwa [done], ⟨store, ?_, whole⟩, ?_, ?_⟩
  · rw [done, insert_store]
    exact opened
  · intro found again
    rw [loaded] at again
    cases again
    rw [done, (insert_counters _ _).1]
    exact ⟨rfl, rfl⟩
  · intro missing
    exact absurd loaded (missing artifact)

/-- Without a stored artifact the compiled one is the answer, and it is stored. -/
theorem heals_compiled {binary : Bytes} {world : World × Nat} (reachable : cache.Reachable)
    (counted : cache.compiler = compiler.counted) (opened : cache.store = some store)
    (absent : cache.find? (cache.keyFor source) = none)
    (missing : ∀ found, (store.load (cache.keyFor source)).1 ≠ .ok (some found))
    (made : cache.compiler.compile cache.world source cache.options = (.ok binary, world))
    (writable : store.Writable (cache.compiledArtifact source kernelNames now binary).key)
    (storable : (cache.compiledArtifact source kernelNames now binary).Storable) :
    cache.Heals store source kernelNames now
      (cache.compiledArtifact source kernelNames now binary) := by
  have nothing : (cache.loadStored (cache.keyFor source)).1 = none :=
    Option.eq_none_iff_forall_ne_some.mpr fun found same =>
      missing found ((loadStored_some opened).mp same)
  have looked : cache.loadStored (cache.keyFor source) =
      (none, { cache with store := some (store.load (cache.keyFor source)).2 }) := by
    rw [loadStored_eq, opened] at nothing ⊢
    exact congrArg (·, _) nothing
  have done : cache.compileSource source kernelNames now = _ :=
    compileSource_compiled absent looked made
  have held := compileSource_found reachable done
  have saved := ArtifactStore.load_save_load writable storable
  refine ⟨by rw [done], rfl, by rwa [done], ⟨_, ?_, saved⟩, ?_, ?_⟩
  · rw [done, insert_store]
    rfl
  · intro found loaded
    exact absurd loaded (missing found)
  · intro _
    exact ⟨rfl, compileSource_invokes counted absent nothing kernelNames now⟩

/-- Where the files of the key can be written, whatever they hold, a request whose key is not in
memory leaves memory and store with the same artifact, if the compiler succeeds. -/
theorem compileSource_heals (reachable : cache.Reachable)
    (counted : cache.compiler = compiler.counted) (opened : cache.store = some store)
    (absent : cache.find? (cache.keyFor source) = none) (named : kernelNames ≠ [])
    (dated : now.InRange) (writable : store.Writable (cache.keyFor source)) {binary : Bytes}
    (compiles : (compiler.compile cache.world.1 source cache.options).1 = .ok binary)
    (small : binary.length < UInt64.size) :
    ∃ artifact, cache.Heals store source kernelNames now artifact := by
  by_cases loadable : ∃ found, (store.load (cache.keyFor source)).1 = .ok (some found)
  · obtain ⟨found, loaded⟩ := loadable
    exact ⟨found, heals_loaded reachable opened absent loaded⟩
  · rw [not_exists] at loadable
    cases made : cache.compiler.compile cache.world source cache.options with
    | mk result world =>
        have same : result = .ok binary := by
          rw [counted] at made
          exact (congrArg Prod.fst made).symm.trans compiles
        subst same
        exact ⟨_, heals_compiled reachable counted opened absent loadable made writable
          (compiledArtifact_storable cache named dated small)⟩

/-- A request heals even an entry that every load fails on and leaves. -/
theorem compileSource_heals_garbled : ∃ (fresh : ArtifactCache (Unit × Nat)) (store : ArtifactStore),
    fresh.Reachable ∧ fresh.compiler = Compiler.echo.counted ∧ fresh.store = some store ∧
      fresh.find? (fresh.keyFor "s") = none ∧ ["f"] ≠ [] ∧ Instant.InRange ⟨0, 0⟩ ∧
      store.Writable (fresh.keyFor "s") ∧
      (Compiler.echo.compile fresh.world.1 "s" fresh.options).1 = .ok (Text.utf8 "s") ∧
      (Text.utf8 "s").length < UInt64.size ∧
      store.load (fresh.keyFor "s") = (.error (.file .notText), store) ∧
      ∃ artifact, fresh.Heals store "s" ["f"] ⟨0, 0⟩ artifact := by
  let stale : Artifact :=
    { ArtifactStore.edition 1 with key := .compute "s" .standard Compiler.echo.counted.name }
  let store := ArtifactStore.overwritten stale [0xFF]
  obtain ⟨description, binary, temporary⟩ := ArtifactStore.find?_overwritten stale [0xFF]
  have created : create 1 .standard Compiler.echo.counted ((), 0) (some store) = .ok _ := rfl
  have writable : store.Writable stale.key :=
    ⟨by simp [store, temporary], by simp [store, description], by simp [store, binary]⟩
  have small : (Text.utf8 "s").length < UInt64.size := by decide
  have named : ["f"] ≠ [] := List.cons_ne_nil _ _
  exact ⟨_, store, .create created, rfl, rfl, rfl, named, Instant.inRange_zero, writable, rfl, small,
    ArtifactStore.overwritten_garbled stale,
    compileSource_heals (.create created) rfl rfl rfl named Instant.inRange_zero writable rfl small⟩

end ArtifactCache

end DeviceKernels
