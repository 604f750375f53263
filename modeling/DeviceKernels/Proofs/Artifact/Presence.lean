import DeviceKernels.Proofs.Artifact.Answers
import DeviceKernels.Proofs.Artifact.NameIndex
import DeviceKernels.Proofs.Artifact.SingleFlight

/-
The artifact of an answer in memory. Wherever an artifact comes from, the request that is answered
with it leaves it in memory, where it is found by its key and its kernels by their names.
-/

namespace DeviceKernels.ArtifactCache

variable {World : Type} {cache after : ArtifactCache World} {artifact : Artifact}
  {source : String} {kernelNames : List String} {now : Instant}

/-- Every reachable cache has room for one artifact. -/
theorem reachable_roomy (reachable : cache.Reachable) : cache.Roomy := by
  induction reachable with
  | create created => exact .create created
  | step _ command ih => exact ih.step command

/-- No artifact in memory has a key that is not found there. -/
theorem key_ne_of_absent {key : ArtifactKey} (absent : cache.find? key = none)
    (member : artifact ∈ cache.artifacts) : artifact.key ≠ key := by
  rintro rfl
  obtain ⟨entry, entryMember, rfl⟩ := List.mem_map.mp member
  exact find?_none.mp absent (List.mem_map_of_mem entryMember)

/-- After a request memory holds what it held and the answer. -/
theorem compileSource_artifacts {held : Artifact}
    (member : held ∈ (cache.compileSource source kernelNames now).2.artifacts) :
    held ∈ cache.artifacts ∨ (cache.compileSource source kernelNames now).1 = .ok held := by
  have outcome := compileSource_answered cache source kernelNames now
  generalize cache.compileSource source kernelNames now = answer at member outcome ⊢
  obtain ⟨result, left⟩ := answer
  cases outcome with
  | remembered found =>
      left
      have same := touch_artifacts cache (cache.keyFor source)
      exact same ▸ member
  | refused => exact .inl member
  | stored =>
      rcases List.mem_cons.mp (insert_artifacts _ _ member) with rfl | before
      · exact .inr rfl
      · exact .inl before
  | compiled =>
      rcases List.mem_cons.mp (insert_artifacts _ _ member) with rfl | before
      · exact .inr rfl
      · exact .inl before

/-- The artifact that answers a request is in memory. -/
theorem compileSource_held (reachable : cache.Reachable)
    (answered : cache.compileSource source kernelNames now = (.ok artifact, after)) :
    artifact ∈ after.artifacts := by
  rcases compileSource_cases cache source kernelNames now with
    ⟨entry, quiet, found, same, hit⟩ | ⟨absent, quiet, same, ⟨error, failed⟩ | ⟨made, key, done⟩⟩
  · rw [hit] at answered
    cases answered
    have kept := touch_artifacts cache (cache.keyFor source)
    rw [artifacts, artifacts] at kept
    rw [artifacts, same.entries, kept]
    exact List.mem_map_of_mem (find?_some found).1
  · rw [failed] at answered
    cases answered
  · rw [done] at answered
    cases answered
    have missing : ¬quiet.holds artifact.key := by
      rw [same.holds, key, holds, absent]
      exact Bool.false_ne_true
    have held := (((reachable_roomy reachable).sameMemory same).insert missing).2
    obtain ⟨other, member, sameKey⟩ := List.mem_map.mp (holds_iff.mp held)
    rcases List.mem_cons.mp (insert_artifacts quiet artifact member) with rfl | before
    · exact member
    · exact absurd (holds_iff.mpr (sameKey ▸ List.mem_map_of_mem before)) missing

/-- A request leaves a coherent cache. -/
theorem compileSource_coherent (reachable : cache.Reachable)
    (answered : cache.compileSource source kernelNames now = (.ok artifact, after)) :
    after.Coherent := by
  have next := reachable_coherent (reachable.step (.compile source kernelNames now))
  simpa only [step, answered] using next

/-- The artifact that answers a request is found by its key. -/
theorem compileSource_found (reachable : cache.Reachable)
    (answered : cache.compileSource source kernelNames now = (.ok artifact, after)) :
    ∃ entry, after.find? artifact.key = some entry ∧ entry.artifact = artifact :=
  (compileSource_coherent reachable answered).find?_key (compileSource_held reachable answered)

/-- A request that is repeated while memory is as it was is answered with the same artifact from
memory, whatever kernels it asks for. The kernels stand for what they stood for, and the store is
left alone. -/
theorem compileSource_again (reachable : cache.Reachable)
    (answered : cache.compileSource source kernelNames now = (.ok artifact, after))
    {quiet : ArtifactCache World} (same : SameMemory after quiet) (others : List String)
    (later : Instant) :
    ∃ last, quiet.compileSource source others later = (.ok artifact, last) ∧
      last.kernels = after.kernels ∧ last.store = quiet.store := by
  obtain ⟨entry, found, rfl⟩ := compileSource_found reachable answered
  have settings := step_settings cache (.compile source kernelNames now)
  simp only [step, answered] at settings
  have key := compileSource_key (congrArg Prod.fst answered)
  have held : quiet.find? (quiet.keyFor source) = some entry := by
    rw [same.settings.keyFor, settings.keyFor, ← key, ← found, find?, find?, same.entries]
  exact ⟨_, compileSource_remembered held, same.kernels, rfl⟩

/-- Every kernel of an artifact that answers a request has a handle right after it. -/
theorem compileSource_handles (reachable : cache.Reachable)
    (answered : cache.compileSource source kernelNames now = (.ok artifact, after)) {name : String}
    (exported : artifact.exports name) :
    ∃ handle, (after.kernel name).1 = some handle ∧ handle.name = name ∧ handle.isExported := by
  have coherent := compileSource_coherent reachable answered
  have found := coherent.kernel_found (compileSource_held reachable answered) exported
  obtain ⟨handle, found⟩ := Option.isSome_iff_exists.mp found
  obtain ⟨own, -, held⟩ := coherent.kernel_held found
  refine ⟨handle, found, own, ?_⟩
  rw [KernelHandle.isExported, own]
  exact held

end DeviceKernels.ArtifactCache
