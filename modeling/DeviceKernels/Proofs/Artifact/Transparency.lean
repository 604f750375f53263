import DeviceKernels.Proofs.Artifact.Custody
import Mathlib.Data.Set.Function

/-
The transparency of the cache. Whatever answers a request, memory, the store or the compiler, the
binary is the one that the compiler makes of the source.
-/

namespace DeviceKernels

open Directory

/-- The image of a key tells the source. -/
theorem ArtifactKey.image_injective (options : CompileOptions) (compiler : String) :
    Function.Injective fun source => image source options compiler := by
  intro first second same
  have after := List.append_cancel_left same
  exact Text.utf8_injective (List.append_cancel_right (List.cons.inj after).2)

namespace ArtifactStore

variable {store after : ArtifactStore} {right : ArtifactKey → Bytes → Prop} {key : ArtifactKey}
  {artifact : Artifact}

/-- The artifact of a valid entry has the binary of its file. -/
theorem ofParts_binary {metadata : ArtifactMetadata} {binary : Bytes}
    (made : Artifact.ofParts metadata binary = .ok artifact) : artifact.binary = binary := by
  simp only [Artifact.ofParts, bind, Except.bind] at made
  repeat' split at made
  all_goals cases made
  rfl

/-- The binary of an entry that is read is the file under its key. -/
theorem readEntry_binary {directory : Directory} (read : readEntry directory key = .ok artifact) :
    ∃ executable, directory.find? (binaryName key) = some (.file artifact.binary executable) := by
  simp only [readEntry, bind, Except.bind] at read
  repeat' split at read
  any_goals cases read
  rename_i executable found
  rw [ofParts_binary read]
  exact ⟨executable, found⟩

/-- An artifact that is loaded has the binary under its key, and stays. -/
theorem load_binary (loaded : (store.load key).1 = .ok (some artifact)) :
    ∃ executable,
      store.directory.find? (binaryName key) = some (.file artifact.binary executable) := by
  rw [load] at loaded
  split at loaded
  · cases loaded
  · split at loaded
    case h_1 entry read =>
      cases loaded
      exact readEntry_binary read
    case h_2 =>
      repeat' split at loaded
      all_goals cases loaded

/-- Every binary of a plain directory has the property for its key. -/
structure Faithful (right : ArtifactKey → Bytes → Prop) (store : ArtifactStore) : Prop where
  plain : store.directory.IsPlain
  binaries : ∀ key contents executable,
    store.directory.find? (binaryName key) = some (.file contents executable) → right key contents

namespace Faithful

theorem empty (clean : store.directory = .empty) : store.Faithful right := by
  constructor
  · rw [clean]
    exact .empty
  · intro key contents executable found
    rw [clean] at found
    cases found

/-- With fewer files a store is as faithful. -/
theorem shrinks (faithful : store.Faithful right)
    (less : Shrinks store.directory after.directory) : after.Faithful right where
  plain := faithful.plain.shrinks less
  binaries key contents executable found :=
    faithful.binaries key contents executable (less _ _ found)

/-- A save keeps a store faithful if the saved binary is right. -/
theorem save (faithful : store.Faithful right) (own : right artifact.key artifact.binary) :
    (store.save artifact).2.Faithful right := by
  rw [save_plain faithful.plain]
  refine ⟨withFiles_plain faithful.plain artifact, ?_⟩
  intro key contents executable found
  rw [find?_withFiles_binary] at found
  split at found
  case isTrue same =>
    cases found
    exact same ▸ own
  case isFalse => exact faithful.binaries key contents executable found

/-- What is loaded from a faithful store is right. -/
theorem loaded (faithful : store.Faithful right)
    (answered : (store.load key).1 = .ok (some artifact)) : right key artifact.binary := by
  obtain ⟨executable, found⟩ := load_binary answered
  exact faithful.binaries key artifact.binary executable found

end Faithful

/-- A faithful store looks after right binaries. -/
theorem custody_faithful (right : ArtifactKey → Bytes → Prop) :
    Custody (Faithful right) fun artifact => right artifact.key artifact.binary where
  shrinks := Faithful.shrinks
  save := Faithful.save
  loaded faithful answered :=
    ArtifactCache.load_key (Prod.ext answered rfl) ▸ faithful.loaded answered

/-- A plain store stays plain. -/
theorem custody_plain : Custody (fun store => store.directory.IsPlain) fun _ => True where
  shrinks plain less := plain.shrinks less
  save plain _ := by
    rw [save_plain plain]
    exact withFiles_plain plain _
  loaded _ _ := trivial

end ArtifactStore

namespace ArtifactCache

variable {World : Type} {cache : ArtifactCache World} {right : ArtifactKey → Bytes → Prop}

/-- Every binary in memory and in the store has the property for its key. -/
structure Faithful (right : ArtifactKey → Bytes → Prop) (cache : ArtifactCache World) : Prop where
  memory : ∀ artifact ∈ cache.artifacts, right artifact.key artifact.binary
  stored : ∀ store, cache.store = some store → store.Faithful right

theorem faithful_iff_keeps : cache.Faithful right ↔
    cache.Keeps (ArtifactStore.Faithful right) fun artifact => right artifact.key artifact.binary :=
  ⟨fun faithful => ⟨faithful.memory, faithful.stored⟩, fun keeps => ⟨keeps.memory, keeps.stored⟩⟩

namespace Faithful

/-- A request keeps a cache faithful and is answered with a right binary, wherever it comes
from. -/
theorem compileSource (faithful : cache.Faithful right) {source : String}
    (makes : ∀ world binary, (cache.compiler.compile world source cache.options).1 = .ok binary →
      right (cache.keyFor source) binary) (kernelNames : List String) (now : Instant) :
    (cache.compileSource source kernelNames now).2.Faithful right ∧
      ∀ artifact, (cache.compileSource source kernelNames now).1 = .ok artifact →
        right (cache.keyFor source) artifact.binary := by
  obtain ⟨keeps, own⟩ := (faithful_iff_keeps.mp faithful).compileSource
    (ArtifactStore.custody_faithful right) source kernelNames now
    fun binary _ made => makes cache.world binary (congrArg Prod.fst made)
  refine ⟨faithful_iff_keeps.mpr keeps, fun artifact answered => ?_⟩
  rw [← compileSource_key answered]
  exact own artifact answered

end Faithful

end ArtifactCache

/-- Whether a compiler makes one binary of each source, whenever it succeeds. -/
def Compiler.Computes {World : Type} (compiler : Compiler World) (options : CompileOptions)
    (output : String → Bytes) : Prop :=
  ∀ world source binary, (compiler.compile world source options).1 = .ok binary →
    binary = output source

/-- Whether a call is one of a program that requests these sources and leaves the disk to its
cache. -/
def CacheCommand.Within {World : Type} (sources : Set String) : CacheCommand World → Prop
  | compile source _ _ => source ∈ sources
  | disturb _ _ => False
  | _ => True

namespace ArtifactCache

variable {World : Type} {options : CompileOptions} {compiler : Compiler World}
  {sources : Set String} {cache : ArtifactCache World}

/-- Calls of one program lead from a new cache, whose store is empty if it has one, to the cache.
The world of the compiler may change at any time. -/
inductive Owned (options : CompileOptions) (compiler : Compiler World) (sources : Set String) :
    ArtifactCache World → Prop
  | create {capacity : Nat} {world : World} {store : Option ArtifactStore}
      {cache : ArtifactCache World} (clean : ∀ opened ∈ store, opened.directory = .empty)
      (created : ArtifactCache.create capacity options compiler world store = .ok cache) :
      Owned options compiler sources cache
  | step {cache : ArtifactCache World} (owned : Owned options compiler sources cache)
      (command : CacheCommand World) (within : command.Within sources) :
      Owned options compiler sources (cache.step command).2
  | work {cache : ArtifactCache World} (owned : Owned options compiler sources cache)
      (world : World) : Owned options compiler sources { cache with world }

/-- The binary of a key is the one that the compiler makes of its source. -/
def Intended (options : CompileOptions) (compiler : Compiler World) (sources : Set String)
    (output : String → Bytes) (key : ArtifactKey) (binary : Bytes) : Prop :=
  ∀ source ∈ sources, ArtifactKey.compute source options compiler.name = key → binary = output source

/-- Without a collision of digests, what the compiler makes of a source is intended for its key. -/
theorem intended_output {output : String → Bytes}
    (separate : Set.InjOn Sha256.digest
      ((fun source => ArtifactKey.image source options compiler.name) '' sources))
    {source : String} (asked : source ∈ sources) :
    Intended options compiler sources output (.compute source options compiler.name)
      (output source) := by
  intro other otherAsked sameKey
  have sameDigest := congrArg ArtifactKey.bytes sameKey
  have sameImage := separate (Set.mem_image_of_mem _ otherAsked) (Set.mem_image_of_mem _ asked)
    sameDigest
  rw [ArtifactKey.image_injective options compiler.name sameImage]

theorem Owned.settings (owned : Owned options compiler sources cache) :
    cache.options = options ∧ cache.compiler = compiler := by
  induction owned with
  | create clean created =>
      rw [(create_ok created).2]
      exact ⟨rfl, rfl⟩
  | @step cache owned command within ih =>
      have same := step_settings cache command
      exact ⟨same.options.trans ih.1, same.compiler.trans ih.2⟩
  | work owned world ih => exact ih

/-- Whatever the cache compiles is intended for the key of its source. -/
theorem Owned.makes {output : String → Bytes} (owned : Owned options compiler sources cache)
    (computes : compiler.Computes options output)
    (separate : Set.InjOn Sha256.digest
      ((fun source => ArtifactKey.image source options compiler.name) '' sources))
    {source : String} (asked : source ∈ sources) (world : World) (binary : Bytes)
    (made : (cache.compiler.compile world source cache.options).1 = .ok binary) :
    Intended options compiler sources output (cache.keyFor source) binary := by
  obtain ⟨sameOptions, sameCompiler⟩ := owned.settings
  rw [sameOptions, sameCompiler] at made
  rw [keyFor, sameOptions, sameCompiler, computes world source binary made]
  exact intended_output separate asked

/-- What a store looks after is kept by every call of the program, if empty stores are good and what
is compiled is right. -/
theorem Owned.keeps {good : ArtifactStore → Prop} {right : Artifact → Prop}
    (owned : Owned options compiler sources cache) (custody : ArtifactStore.Custody good right)
    (empty : ∀ store : ArtifactStore, store.directory = .empty → good store)
    (makes : ∀ {cache : ArtifactCache World}, Owned options compiler sources cache →
      ∀ source ∈ sources, ∀ kernelNames now binary world,
        cache.compiler.compile cache.world source cache.options = (.ok binary, world) →
          right (cache.compiledArtifact source kernelNames now binary)) :
    cache.Keeps good right := by
  induction owned with
  | create clean created =>
      exact .create (fun opened same => empty opened (clean opened same)) created
  | @step cache owned command within ih =>
      cases command with
      | compile source kernelNames now =>
          exact (ih.compileSource custody source kernelNames now
            (makes owned source within kernelNames now)).1
      | kernel name => exact ih.kernel name
      | invalidate key => exact ih.invalidate custody key
      | clearMemory => exact ih.clearMemory
      | purgeDisk => exact ih.purgeDisk custody
      | disturb world directory => exact within.elim
  | work owned world ih => exact ⟨ih.memory, ih.stored⟩

/-- The directory of an owned cache is plain. -/
theorem Owned.plain {store : ArtifactStore} (owned : Owned options compiler sources cache)
    (opened : cache.store = some store) : store.directory.IsPlain := by
  have keeps := owned.keeps ArtifactStore.custody_plain (fun store clean => clean ▸ .empty)
    fun _ _ _ _ _ _ _ _ => trivial
  exact keeps.stored store opened

theorem Owned.faithful {output : String → Bytes} (owned : Owned options compiler sources cache)
    (computes : compiler.Computes options output)
    (separate : Set.InjOn Sha256.digest
      ((fun source => ArtifactKey.image source options compiler.name) '' sources)) :
    cache.Faithful (Intended options compiler sources output) := by
  refine faithful_iff_keeps.mpr <|
    owned.keeps (ArtifactStore.custody_faithful _) (fun store clean => .empty clean) ?_
  intro cache owned source asked kernelNames now binary world made
  exact owned.makes computes separate asked cache.world binary (congrArg Prod.fst made)

/-- If digests do not collide, every answer to a request is the artifact of its source, as the
compiler makes it. -/
theorem owned_transparent {output : String → Bytes} (owned : Owned options compiler sources cache)
    (computes : compiler.Computes options output)
    (separate : Set.InjOn Sha256.digest
      ((fun source => ArtifactKey.image source options compiler.name) '' sources))
    {source : String} (asked : source ∈ sources) {kernelNames : List String} {now : Instant}
    {artifact : Artifact} (answered : (cache.compileSource source kernelNames now).1 = .ok artifact) :
    artifact.key = cache.keyFor source ∧ artifact.binary = output source ∧
      artifact.digest = Sha256.hexDigest (output source) := by
  have right := ((owned.faithful computes separate).compileSource
    (owned.makes computes separate asked) kernelNames now).2 artifact answered
  have sameKey : artifact.key = cache.keyFor source := by
    rcases compileSource_cases cache source kernelNames now with
      ⟨entry, quiet, found, -, done⟩ | ⟨-, quiet, -, ⟨error, failed⟩ | ⟨made, key, done⟩⟩
    · rw [done] at answered
      cases answered
      exact (find?_some found).2
    · rw [failed] at answered
      cases answered
    · rw [done] at answered
      cases answered
      exact key
  obtain ⟨sameOptions, sameCompiler⟩ := owned.settings
  have binary : artifact.binary = output source := by
    refine right source asked ?_
    rw [keyFor, sameOptions, sameCompiler]
  exact ⟨sameKey, binary, congrArg Sha256.hexDigest binary⟩

/-- A request fails only as the compiler does. -/
theorem compileSource_error {cache : ArtifactCache World} {source : String}
    {kernelNames : List String} {now : Instant} {error : CompileError}
    (failed : (cache.compileSource source kernelNames now).1 = .error error) :
    ∃ world, (cache.compiler.compile world source cache.options).1 = .error error := by
  obtain ⟨answer, quiet, looked, same, -⟩ := loadStored_cases cache (cache.keyFor source)
  rw [compileSource] at failed
  split at failed
  · cases failed
  case h_2 missed =>
    rw [loadOrCompile, missed, looked] at failed
    cases answer with
    | some artifact => cases failed
    | none =>
        refine ⟨quiet.world, ?_⟩
        simp only [compileMissing, same.compiler, same.options] at failed
        split at failed
        case h_1 reason refused =>
          cases failed
          exact refused
        case h_2 => cases failed

/-- A source that was given up for another one is answered with its own binary again. -/
theorem owned_transparent_echo : ∃ fresh : ArtifactCache Unit,
    create 1 .standard .echo () (some ⟨"cache", .empty⟩) = .ok fresh ∧
      let first := (fresh.step (.compile "a" ["f"] ⟨0, 0⟩)).2
      let second := (first.step (.compile "b" ["g"] ⟨0, 0⟩)).2
      ∃ artifact, (second.compileSource "a" ["f"] ⟨0, 0⟩).1 = .ok artifact ∧
        artifact.binary = Text.utf8 "a" := by
  have created : create 1 .standard .echo () (some ⟨"cache", .empty⟩) = .ok _ := rfl
  have fresh : Owned .standard .echo {"a", "b"} _ :=
    .create (fun opened same => by cases same; rfl) created
  have first := fresh.step (.compile "a" ["f"] ⟨0, 0⟩) (Set.mem_insert _ _)
  have second := first.step (.compile "b" ["g"] ⟨0, 0⟩) (Set.mem_insert_of_mem _ rfl)
  have computes : Compiler.echo.Computes .standard Text.utf8 := by
    intro world source binary made
    cases made
    rfl
  have apart : Sha256.digest (ArtifactKey.image "a" .standard Compiler.echo.name) ≠
      Sha256.digest (ArtifactKey.image "b" .standard Compiler.echo.name) := by decide +kernel
  have separate : Set.InjOn Sha256.digest
      ((fun source => ArtifactKey.image source .standard Compiler.echo.name) '' {"a", "b"}) := by
    rintro _ ⟨one, rfl | rfl, rfl⟩ _ ⟨other, rfl | rfl, rfl⟩ same
    · rfl
    · exact absurd same apart
    · exact absurd same.symm apart
    · rfl
  refine ⟨_, created, ?_⟩
  cases answered : (ArtifactCache.compileSource _ "a" ["f"] ⟨0, 0⟩).1 with
  | ok artifact =>
      exact ⟨artifact, answered,
        (owned_transparent second computes separate (Set.mem_insert _ _) answered).2.1⟩
  | error error =>
      obtain ⟨world, failed⟩ := compileSource_error answered
      rw [second.settings.2] at failed
      cases failed

end ArtifactCache

end DeviceKernels
