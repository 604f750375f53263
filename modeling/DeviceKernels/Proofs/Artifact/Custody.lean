import DeviceKernels.Proofs.Artifact.Answers
import DeviceKernels.Proofs.Artifact.EntryFiles

/-
A property that every compiled artifact has is one of all artifacts in memory, in the store and in
answers, as long as the store gives back only artifacts with the property when it was given only
such artifacts.
-/

namespace DeviceKernels

open Directory

/-- A property of stores that looks after a property of artifacts: it holds of a store with fewer
files and after a save of an artifact with the property, and then loads give such artifacts only. -/
structure ArtifactStore.Custody (good : ArtifactStore → Prop) (right : Artifact → Prop) : Prop where
  shrinks : ∀ {store after : ArtifactStore}, good store →
    Shrinks store.directory after.directory → good after
  save : ∀ {store : ArtifactStore} {artifact : Artifact}, good store → right artifact →
    good (store.save artifact).2
  loaded : ∀ {store : ArtifactStore} {key : ArtifactKey} {artifact : Artifact}, good store →
    (store.load key).1 = .ok (some artifact) → right artifact

namespace ArtifactCache

variable {World : Type} {cache after : ArtifactCache World} {good : ArtifactStore → Prop}
  {right : Artifact → Prop} {artifact : Artifact}

/-- Every artifact in memory has the property, and the store looks after it. -/
structure Keeps (good : ArtifactStore → Prop) (right : Artifact → Prop)
    (cache : ArtifactCache World) : Prop where
  memory : ∀ artifact ∈ cache.artifacts, right artifact
  stored : ∀ store, cache.store = some store → good store

namespace Keeps

theorem create {capacity : Nat} {options : CompileOptions} {compiler : Compiler World}
    {world : World} {store : Option ArtifactStore} (opened : ∀ held, store = some held → good held)
    (created : ArtifactCache.create capacity options compiler world store = .ok cache) :
    cache.Keeps good right := by
  rw [(create_ok created).2]
  exact ⟨fun artifact member => absurd member List.not_mem_nil, opened⟩

/-- What a cache keeps it keeps in a weaker form too. -/
theorem imp {goodLater : ArtifactStore → Prop} {rightLater : Artifact → Prop}
    (keeps : cache.Keeps good right) (stored : ∀ store, good store → goodLater store)
    (own : ∀ artifact, right artifact → rightLater artifact) : cache.Keeps goodLater rightLater :=
  ⟨fun artifact member => own artifact (keeps.memory artifact member),
    fun store opened => stored store (keeps.stored store opened)⟩

/-- With fewer artifacts in memory a cache keeps the property. -/
theorem less (keeps : cache.Keeps good right) (fewer : after.artifacts ⊆ cache.artifacts)
    (same : after.store = cache.store) : after.Keeps good right where
  memory artifact member := keeps.memory artifact (fewer member)
  stored store opened := keeps.stored store (same ▸ opened)

theorem touch (keeps : cache.Keeps good right) (key : ArtifactKey) :
    (cache.touch key).Keeps good right := by
  refine keeps.less ?_ rfl
  rw [touch_artifacts]
  exact List.Subset.refl _

theorem insert (keeps : cache.Keeps good right) (own : right artifact) :
    (cache.insert artifact).Keeps good right where
  memory other member := by
    rcases List.mem_cons.mp (insert_artifacts cache artifact member) with rfl | held
    · exact own
    · exact keeps.memory other held
  stored store opened := by
    rw [insert_store] at opened
    exact keeps.stored store opened

theorem persist (custody : ArtifactStore.Custody good right) (keeps : cache.Keeps good right)
    (own : right artifact) : (cache.persist artifact).Keeps good right where
  memory := keeps.memory
  stored store opened := by
    obtain ⟨before, held, rfl⟩ := Option.map_eq_some_iff.mp opened
    exact custody.save (keeps.stored before held) own

/-- Looking into the store keeps the property, and what is found there has it. -/
theorem loadStored (custody : ArtifactStore.Custody good right) (keeps : cache.Keeps good right)
    (key : ArtifactKey) : (cache.loadStored key).2.Keeps good right ∧
      ∀ artifact, (cache.loadStored key).1 = some artifact → right artifact := by
  rw [ArtifactCache.loadStored]
  split
  · exact ⟨keeps, by simp⟩
  case h_2 store opened =>
    have before := keeps.stored store opened
    have left := custody.shrinks before (ArtifactStore.shrinks_load store key)
    split
    case h_1 found store loaded =>
      rw [loaded] at left
      refine ⟨⟨keeps.memory, fun other same => Option.some.inj same ▸ left⟩, ?_⟩
      rintro artifact rfl
      exact custody.loaded before (congrArg Prod.fst loaded)
    case h_2 failed =>
      rw [failed] at left
      exact ⟨⟨keeps.memory, fun other same => Option.some.inj same ▸ left⟩, by simp⟩

/-- A request keeps the property if what it compiles has it, and then its answer has it, wherever
it comes from. -/
theorem compileSource (custody : ArtifactStore.Custody good right) (keeps : cache.Keeps good right)
    (source : String) (kernelNames : List String) (now : Instant)
    (makes : ∀ binary world,
      cache.compiler.compile cache.world source cache.options = (.ok binary, world) →
        right (cache.compiledArtifact source kernelNames now binary)) :
    (cache.compileSource source kernelNames now).2.Keeps good right ∧
      ∀ artifact, (cache.compileSource source kernelNames now).1 = .ok artifact →
        right artifact := by
  have looked := keeps.loadStored custody (cache.keyFor source)
  have answered := compileSource_answered cache source kernelNames now
  generalize cache.compileSource source kernelNames now = outcome at answered ⊢
  obtain ⟨result, left⟩ := outcome
  cases answered with
  | remembered found =>
      have used := keeps.touch (cache.keyFor source)
      refine ⟨⟨used.memory, used.stored⟩, fun artifact same => ?_⟩
      rw [← Except.ok.inj same]
      exact keeps.memory _ (List.mem_map_of_mem (find?_some found).1)
  | stored absent loaded =>
      rw [loaded] at looked
      have own := looked.2 _ rfl
      exact ⟨Keeps.insert ⟨looked.1.memory, looked.1.stored⟩ own,
        fun artifact same => Except.ok.inj same ▸ own⟩
  | refused absent loaded failed =>
      rw [loaded] at looked
      exact ⟨⟨looked.1.memory, looked.1.stored⟩, fun artifact same => by cases same⟩
  | compiled absent loaded made =>
      rw [loaded] at looked
      have own := makes _ _ made
      refine ⟨?_, fun artifact same => Except.ok.inj same ▸ own⟩
      exact Keeps.insert (.persist custody ⟨looked.1.memory, looked.1.stored⟩ own) own

theorem invalidate (custody : ArtifactStore.Custody good right) (keeps : cache.Keeps good right)
    (key : ArtifactKey) : (cache.invalidate key).2.Keeps good right := by
  have forgotten : (cache.forget key).2.Keeps good right :=
    keeps.less (forget_artifacts cache key) (forget_store cache key)
  rw [ArtifactCache.invalidate]
  generalize cache.forget key = outcome at forgotten
  obtain ⟨held, left⟩ := outcome
  dsimp only at forgotten ⊢
  split
  · exact forgotten
  case h_2 store opened =>
    have removed := custody.shrinks (forgotten.stored store opened)
      (ArtifactStore.shrinks_remove store key)
    exact ⟨forgotten.memory, fun other same => Option.some.inj same ▸ removed⟩

theorem purgeDisk (custody : ArtifactStore.Custody good right) (keeps : cache.Keeps good right) :
    cache.purgeDisk.2.Keeps good right := by
  rw [ArtifactCache.purgeDisk]
  split
  · exact keeps
  case h_2 store opened =>
    have cleared := custody.shrinks (keeps.stored store opened) (ArtifactStore.shrinks_clear store)
    exact ⟨keeps.memory, fun other same => Option.some.inj same ▸ cleared⟩

theorem kernel (keeps : cache.Keeps good right) (name : String) :
    (cache.kernel name).2.Keeps good right := by
  rcases kernel_cases cache name with missed | ⟨key, entry, -, -, found⟩
  · rw [missed]
    exact keeps
  · rw [found]
    exact keeps.touch entry.artifact.key

theorem clearMemory (keeps : cache.Keeps good right) : cache.clearMemory.2.Keeps good right :=
  keeps.less (List.nil_subset _) rfl

end Keeps

end ArtifactCache

end DeviceKernels
