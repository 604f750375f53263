import DeviceKernels.Proofs.Artifact.Descriptions
import DeviceKernels.Proofs.Artifact.Survival

/-
A new cache over the directory of an old one. It finds there every artifact that the old one had
filed, and answers with it without its compiler.
-/

namespace DeviceKernels

open Directory

/-- A store in which no description names a kernel gives nothing back. -/
theorem ArtifactStore.load_unnamed {store : ArtifactStore}
    (unnamed : store.DescribesRight fun _ list => list = []) (key : ArtifactKey) (found : Artifact) :
    (store.load key).1 ≠ .ok (some found) := by
  intro loaded
  have read := load_some.mp loaded
  obtain ⟨metadata, executable, described, -, made⟩ := readEntry_parts read
  have named : metadata.key = found.key.toHex := ArtifactCache.readEntry_key read ▸ described.named
  exact (Artifact.ofParts_ok made named).1 (unnamed.loaded loaded)

/-- Nothing is left of an artifact once the store was cleared. -/
theorem ArtifactStore.load_cleared {path : String} (listable : path ≠ "") {artifact : Artifact}
    (storable : artifact.Storable) (key : ArtifactKey) :
    (((ArtifactStore.mk path .empty).save artifact).2.clear.2.load key).1 = .ok none := by
  have fresh : (ArtifactStore.mk path .empty).Stores .empty :=
    ⟨listable, rfl, fun artifact member => absurd member List.not_mem_nil⟩
  have cleared := (fresh.save storable).2.clear.2
  rw [cleared.load]
  rfl

namespace ArtifactCache

variable {World Other : Type} {start cache : ArtifactCache World} {next : ArtifactCache Other}
  {source : String} {kernelNames : List String} {now : Instant} {artifact : Artifact}
  {capacity : Nat} {options : CompileOptions} {disk reopened : ArtifactStore}

/-- A new cache over the directory of a cache files what that cache filed. -/
theorem Filed.reopen {compiler : Compiler Other} {world : Other} (filed : cache.Filed artifact)
    (opened : cache.store = some disk) (same : reopened.directory = disk.directory)
    (created : create capacity options compiler world (some reopened) = .ok next) :
    next.Filed artifact := by
  obtain ⟨-, rfl⟩ := create_ok created
  have loads : (reopened.load artifact.key).1 = (disk.load artifact.key).1 :=
    ArtifactStore.load_congr (by rw [same]) (by rw [same])
  have stored := filed.stored
  rw [loadStored_eq, opened, Option.bind_some] at stored
  refine ⟨?_, fun held member => absurd member List.not_mem_nil⟩
  rw [loadStored_eq, Option.bind_some, loads]
  exact stored

/-- A request is answered with the artifact from the store. The compiler and the store are left as
they are. -/
structure AnsweredFromStore (cache : ArtifactCache World) (source : String)
    (kernelNames : List String) (now : Instant) (artifact : Artifact) : Prop where
  answered : (cache.compileSource source kernelNames now).1 = .ok artifact
  counted : (cache.compileSource source kernelNames now).2.counters.diskHits =
    cache.counters.diskHits + 1
  world : (cache.compileSource source kernelNames now).2.world = cache.world
  store : (cache.compileSource source kernelNames now).2.store = cache.store

/-- A filed artifact that memory lacks comes from the store. -/
theorem Filed.answeredFromStore (filed : cache.Filed artifact)
    (own : cache.keyFor source = artifact.key)
    (absent : cache.find? (cache.keyFor source) = none) (kernelNames : List String)
    (now : Instant) : cache.AnsweredFromStore source kernelNames now artifact := by
  have loaded := loadStored_found filed.stored
  rw [← own] at loaded
  obtain ⟨answered, store, world⟩ := filed.answers own kernelNames now
  refine ⟨answered, ?_, world, store⟩
  rw [compileSource_stored absent loaded]
  obtain ⟨-, evictions, counters⟩ := insert_counters { cache with
    counters := { cache.counters with diskHits := cache.counters.diskHits + 1 } } artifact
  rw [counters]

/-- A request was answered with an artifact that exports a kernel, and since memory last lacked its
key nothing was purged and the key was not invalidated. Then a new cache with the same options and a
compiler of the same name answers from the directory, with the same artifact and without its
compiler, whatever kernels it is asked for. -/
theorem restart_answers {compiler : Compiler World} {renewed : Compiler Other} {world : Other × Nat}
    {next : ArtifactCache (Other × Nat)} {later : ArtifactCache World}
    (owned : Owned options compiler Set.univ start) (opened : start.store.isSome)
    (absent : start.find? (.compute source options compiler.name) = none)
    (before : Spared (.compute source options compiler.name) start cache)
    (answered : (cache.compileSource source kernelNames now).1 = .ok artifact)
    (exported : artifact.kernelNames ≠ []) (inRange : artifact.metadata.InRange)
    (since : Spared (.compute source options compiler.name)
      (cache.compileSource source kernelNames now).2 later)
    (left : later.store = some disk) (sameName : renewed.name = compiler.name)
    (same : reopened.directory = disk.directory)
    (created : create capacity options renewed.counted world (some reopened) = .ok next)
    (others : List String) (again : Instant) :
    next.AnsweredFromStore source others again artifact := by
  have key : artifact.key = .compute source options compiler.name :=
    (compileSource_key answered).trans ((before.owned owned).keyFor source)
  obtain ⟨store, held⟩ := Option.isSome_iff_exists.mp (before.opened opened)
  have plain := (before.owned owned).plain held
  have filed := (before.backed owned opened absent).files held plain answered key
    (Artifact.storable exported inRange)
  rw [← key] at since
  have reopenedFiled := (filed.spared since).reopen left same created
  obtain ⟨-, rfl⟩ := create_ok created
  have own : ArtifactKey.compute source options renewed.name = artifact.key := by
    rw [sameName, key]
  exact reopenedFiled.answeredFromStore own rfl others again

/-- A new cache with room for one artifact and a counted compiler. -/
def single (store : ArtifactStore) : ArtifactCache (Unit × Nat) :=
  ⟨1, .standard, Compiler.echo.counted, ((), 0), some store, [], [], 0, .zero⟩

theorem create_single (store : ArtifactStore) :
    create 1 .standard Compiler.echo.counted ((), 0) (some store) = .ok (single store) := rfl

/-- An artifact that was given up for another one comes from the directory after a restart. -/
theorem restart_answers_evicted :
    let start := single ⟨"cache", .empty⟩
    let first := start.compileSource "a" ["f"] ⟨0, 0⟩
    ∃ artifact disk, first.1 = .ok artifact ∧ artifact.kernelNames ≠ [] ∧
      artifact.metadata.InRange ∧ (first.2.step (.compile "b" ["g"] ⟨0, 0⟩)).2.store = some disk ∧
      (single disk).AnsweredFromStore "a" ["f"] ⟨0, 0⟩ artifact := by
  intro start first
  have created : create 1 .standard Compiler.echo.counted ((), 0) (some ⟨"cache", .empty⟩) =
    .ok start := create_single _
  have owned : Owned .standard Compiler.echo.counted Set.univ start :=
    .create (fun opened same => by cases same; rfl) created
  have compiled : start.compileSource "a" ["f"] ⟨0, 0⟩ = _ := compileSource_compiled rfl rfl rfl
  have answered := congrArg Prod.fst compiled
  have since : Spared (.compute "a" .standard Compiler.echo.counted.name) first.2
      (first.2.step (.compile "b" ["g"] ⟨0, 0⟩)).2 := Spared.refl.step _ trivial
  have before : Spared (.compute "a" .standard Compiler.echo.counted.name) start
      (start.step (.compile "a" ["f"] ⟨0, 0⟩)).2 := Spared.refl.step _ trivial
  obtain ⟨disk, left⟩ := Option.isSome_iff_exists.mp (since.opened (before.opened rfl))
  have inRange : (start.compiledArtifact "a" ["f"] ⟨0, 0⟩ (Text.utf8 "a")).metadata.InRange :=
    ⟨Instant.inRange_zero, (by decide : (Text.utf8 "a").length < UInt64.size)⟩
  have sameName : Compiler.echo.name = Compiler.echo.counted.name := rfl
  exact ⟨_, disk, answered, List.cons_ne_nil _ _, inRange, left,
    restart_answers owned rfl rfl .refl answered (List.cons_ne_nil _ _) inRange since left sameName
      rfl (create_single disk) ["f"] ⟨0, 0⟩⟩

/-- A new cache over a directory that gives nothing back invokes its compiler. -/
theorem single_invokes {disk : ArtifactStore}
    (missing : ∀ key found, (disk.load key).1 ≠ .ok (some found)) (source : String)
    (kernelNames : List String) (now : Instant) :
    ((single disk).compileSource source kernelNames now).2.world.2 = 1 := by
  have counted : (single disk).compiler = Compiler.echo.counted := rfl
  have nothing : ((single disk).loadStored ((single disk).keyFor source)).1 = none :=
    Option.eq_none_iff_forall_ne_some.mpr fun found same =>
      missing _ found ((loadStored_some rfl).mp same)
  exact compileSource_invokes counted rfl nothing kernelNames now

/-- An artifact without kernels is saved but not given back: after a restart it is compiled again. -/
theorem unnamed_recompiles :
    let first := (single ⟨"cache", .empty⟩).compileSource "s" [] ⟨0, 0⟩
    ∃ artifact disk, first.1 = .ok artifact ∧ first.2.store = some disk ∧
      ((single disk).compileSource "s" [] ⟨0, 0⟩).2.world.2 = 1 := by
  intro first
  have created := create_single ⟨"cache", .empty⟩
  have custody := ArtifactStore.custody_described fun _ list => list = []
  have empty : (single ⟨"cache", .empty⟩).Keeps
      (ArtifactStore.DescribesRight fun _ list => list = [])
      fun artifact => artifact.kernelNames = [] :=
    .create (fun held same => by cases same; exact .empty rfl) created
  have keeps := (empty.compileSource custody "s" [] ⟨0, 0⟩ fun _ _ _ => rfl).1
  have spared : Spared (.compute "s" .standard "echo") (single ⟨"cache", .empty⟩)
      ((single ⟨"cache", .empty⟩).step (.compile "s" [] ⟨0, 0⟩)).2 := Spared.refl.step _ trivial
  obtain ⟨disk, left⟩ := Option.isSome_iff_exists.mp (spared.opened rfl)
  have compiled : first = _ := compileSource_compiled rfl rfl rfl
  refine ⟨_, disk, congrArg Prod.fst compiled, left, single_invokes ?_ "s" [] ⟨0, 0⟩⟩
  intro key found
  exact ArtifactStore.load_unnamed (keeps.stored disk left) key found

/-- What was purged is not written again by a request that memory answers: after a restart it is
compiled again. -/
theorem purged_recompiles :
    let purged := ((single ⟨"cache", .empty⟩).compileSource "s" ["f"] ⟨0, 0⟩).2.purgeDisk.2
    let again := purged.compileSource "s" ["f"] ⟨0, 0⟩
    ∃ artifact disk, again.1 = .ok artifact ∧ artifact.kernelNames = ["f"] ∧
      again.2.store = some disk ∧ ((single disk).compileSource "s" ["f"] ⟨0, 0⟩).2.world.2 = 1 := by
  intro purged again
  let empty : ArtifactStore := ⟨"cache", .empty⟩
  let artifact := (single empty).compiledArtifact "s" ["f"] ⟨0, 0⟩ (Text.utf8 "s")
  have compiled : (single empty).compileSource "s" ["f"] ⟨0, 0⟩ = _ :=
    compileSource_compiled rfl rfl rfl
  have answered : (single empty).compileSource "s" ["f"] ⟨0, 0⟩ =
      (.ok artifact, ((single empty).compileSource "s" ["f"] ⟨0, 0⟩).2) :=
    Prod.ext (congrArg Prod.fst compiled) rfl
  have stored : ((single empty).compileSource "s" ["f"] ⟨0, 0⟩).2.store =
      some (empty.save artifact).2 := by
    rw [compiled]
    exact insert_store _ _
  obtain ⟨last, done, -, kept⟩ := compileSource_again (.create (create_single empty)) answered
    (purgeDisk_sameMemory _) ["f"] ⟨0, 0⟩
  have disk : last.store = some (empty.save artifact).2.clear.2 := by
    rw [kept, purgeDisk_left]
    exact congrArg (Option.map fun store => store.clear.2) stored
  have small : (Text.utf8 "s").length < UInt64.size := by decide
  have storable : artifact.Storable :=
    compiledArtifact_storable (single empty) (List.cons_ne_nil _ _) Instant.inRange_zero small
  have missing (key : ArtifactKey) (found : Artifact) :
      ((empty.save artifact).2.clear.2.load key).1 ≠ .ok (some found) := by
    rw [ArtifactStore.load_cleared (by decide) storable key]
    simp
  have answer : again = (.ok artifact, last) := done
  rw [answer]
  exact ⟨artifact, _, rfl, rfl, disk, single_invokes missing "s" ["f"] ⟨0, 0⟩⟩

/-- Two requests that succeeded and are not answered from the directory after a restart, though
nothing was purged or invalidated after them: one for no kernels, and one that memory answered after
a purge. -/
theorem restart_recompiles :
    (let first := (single ⟨"cache", .empty⟩).compileSource "s" [] ⟨0, 0⟩
      ∃ artifact disk, first.1 = .ok artifact ∧ first.2.store = some disk ∧
        ((single disk).compileSource "s" [] ⟨0, 0⟩).2.world.2 = 1) ∧
    (let purged := ((single ⟨"cache", .empty⟩).compileSource "s" ["f"] ⟨0, 0⟩).2.purgeDisk.2
      let again := purged.compileSource "s" ["f"] ⟨0, 0⟩
      ∃ artifact disk, again.1 = .ok artifact ∧ artifact.kernelNames = ["f"] ∧
        again.2.store = some disk ∧ ((single disk).compileSource "s" ["f"] ⟨0, 0⟩).2.world.2 = 1) :=
  ⟨unnamed_recompiles, purged_recompiles⟩

end ArtifactCache

end DeviceKernels
