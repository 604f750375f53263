import DeviceKernels.Proofs.Artifact.Commands
import Mathlib.Data.List.Dedup

/-
The index of kernel names. Whatever is inserted, given up or forgotten, a name stands for an
artifact in memory that exports it as long as there is one, and for nothing else.
-/

namespace DeviceKernels

/-- Every name is there once and stands for an artifact that exports it. -/
structure Sound (artifacts : List Artifact) (kernels : List (String × ArtifactKey)) : Prop where
  names : (kernels.map Prod.fst).Nodup
  sound : ∀ kernel ∈ kernels, ∃ artifact ∈ artifacts,
    artifact.key = kernel.2 ∧ artifact.exports kernel.1

/-- The names are sound, and every exported name is there. -/
structure Indexed (artifacts : List Artifact) (kernels : List (String × ArtifactKey)) : Prop
    extends Sound artifacts kernels where
  complete : ∀ artifact ∈ artifacts, ∀ name, artifact.exports name → name ∈ kernels.map Prod.fst

/-- As an index, but pending names may stand for a key that is going. -/
structure Releasing (key : ArtifactKey) (pending : List String) (artifacts : List Artifact)
    (kernels : List (String × ArtifactKey)) : Prop where
  names : (kernels.map Prod.fst).Nodup
  sound : ∀ kernel ∈ kernels, (∃ artifact ∈ artifacts,
    artifact.key = kernel.2 ∧ artifact.exports kernel.1) ∨ (kernel.2 = key ∧ kernel.1 ∈ pending)
  complete : ∀ artifact ∈ artifacts, ∀ name, artifact.exports name → name ∈ kernels.map Prod.fst

variable {artifacts : List Artifact} {artifact : Artifact} {entries : List CacheEntry}
  {kernels : List (String × ArtifactKey)} {key : ArtifactKey} {name : String}
  {pending : List String}

/-- An artifact exports the names of its kernels. -/
theorem Artifact.exports_iff : artifact.exports name ↔ name ∈ artifact.kernelNames := by
  rw [Artifact.exports, List.contains_iff_mem]

/-- Nothing indexes nothing. -/
theorem Indexed.empty : Indexed [] [] := ⟨⟨.nil, by simp⟩, by simp⟩

/-- There are as many names as different names are exported. -/
theorem Indexed.length (indexed : Indexed artifacts kernels) :
    kernels.length = (artifacts.flatMap Artifact.kernelNames).dedup.length := by
  rw [← List.length_map (f := Prod.fst)]
  refine ((List.perm_ext_iff_of_nodup indexed.names (List.nodup_dedup _)).mpr ?_).length_eq
  intro name
  rw [List.mem_dedup, List.mem_flatMap]
  constructor
  · intro member
    obtain ⟨kernel, kernelMember, rfl⟩ := List.mem_map.mp member
    obtain ⟨artifact, artifactMember, -, exported⟩ := indexed.sound kernel kernelMember
    exact ⟨artifact, artifactMember, Artifact.exports_iff.mp exported⟩
  · rintro ⟨artifact, artifactMember, member⟩
    exact indexed.complete artifact artifactMember name (Artifact.exports_iff.mpr member)

namespace ArtifactCache

/-- The latest exporter is in memory and exports the name. -/
theorem latestExporter?_some {next : CacheEntry}
    (found : latestExporter? entries name = some next) :
    next.artifact ∈ entries.map CacheEntry.artifact ∧ next.artifact.exports name := by
  obtain ⟨member, exported⟩ := List.mem_filter.mp (List.maxOn?_mem found)
  exact ⟨List.mem_map_of_mem member, exported⟩

/-- Without a latest exporter nothing in memory exports the name. -/
theorem latestExporter?_none (absent : latestExporter? entries name = none) :
    ∀ artifact ∈ entries.map CacheEntry.artifact, ¬artifact.exports name := by
  intro artifact member exported
  obtain ⟨entry, entryMember, rfl⟩ := List.mem_map.mp member
  have candidate : entry ∈ entries.filter fun entry => entry.artifact.exports name :=
    List.mem_filter.mpr ⟨entryMember, exported⟩
  have found := List.isSome_maxOn?_of_mem (f := CacheEntry.lastUsed) candidate
  rw [latestExporter?] at absent
  rw [absent] at found
  cases found

/-- A name that stands for another key stays as it is. -/
theorem pending_tail {kernel : String × ArtifactKey}
    (sound : (∃ artifact ∈ artifacts, artifact.key = kernel.2 ∧ artifact.exports kernel.1) ∨
      (kernel.2 = key ∧ kernel.1 ∈ name :: pending))
    (other : ¬(kernel.1 = name ∧ kernel.2 = key)) :
    (∃ artifact ∈ artifacts, artifact.key = kernel.2 ∧ artifact.exports kernel.1) ∨
      (kernel.2 = key ∧ kernel.1 ∈ pending) := by
  rcases sound with held | ⟨gone, member⟩
  · exact .inl held
  · rcases List.mem_cons.mp member with same | later
    · exact absurd ⟨same, gone⟩ other
    · exact .inr ⟨gone, later⟩

/-- A pending name is handed to an artifact that exports it. -/
theorem handOn_releasing (releasing : Releasing key (name :: pending) artifacts kernels)
    (member : artifact ∈ artifacts) (exported : artifact.exports name) :
    Releasing key pending artifacts (kernels.map fun kernel =>
      if kernel.1 == name && kernel.2 == key then (name, artifact.key) else kernel) := by
  have sameNames : (kernels.map fun kernel =>
      if kernel.1 == name && kernel.2 == key then (name, artifact.key) else kernel).map Prod.fst =
        kernels.map Prod.fst := by
    rw [List.map_map]
    apply List.map_congr_left
    intro kernel _
    simp only [Function.comp_apply, Bool.and_eq_true, beq_iff_eq]
    split
    case isTrue both => exact both.1.symm
    case isFalse => rfl
  refine ⟨sameNames ▸ releasing.names, ?_, sameNames ▸ releasing.complete⟩
  intro kernel kernelMember
  obtain ⟨before, beforeMember, rfl⟩ := List.mem_map.mp kernelMember
  simp only [Bool.and_eq_true, beq_iff_eq]
  split
  case isTrue => exact .inl ⟨artifact, member, rfl, exported⟩
  case isFalse other => exact pending_tail (releasing.sound before beforeMember) other

/-- A pending name that no artifact exports is dropped. -/
theorem giveUp_releasing (releasing : Releasing key (name :: pending) artifacts kernels)
    (absent : ∀ artifact ∈ artifacts, ¬artifact.exports name) :
    Releasing key pending artifacts
      (kernels.filter fun kernel => !(kernel.1 == name && kernel.2 == key)) := by
  refine ⟨(List.filter_sublist.map Prod.fst).nodup releasing.names, ?_, ?_⟩
  · intro kernel member
    obtain ⟨kernelMember, kept⟩ := List.mem_filter.mp member
    have other : ¬(kernel.1 = name ∧ kernel.2 = key) := by
      simpa [imp_iff_not_or] using kept
    exact pending_tail (releasing.sound kernel kernelMember) other
  · intro artifact member exportedName exported
    obtain ⟨kernel, kernelMember, rfl⟩ :=
      List.mem_map.mp (releasing.complete artifact member exportedName exported)
    refine List.mem_map_of_mem (List.mem_filter.mpr ⟨kernelMember, ?_⟩)
    have other : kernel.1 ≠ name := by
      rintro rfl
      exact absent artifact member exported
    simp [other]

/-- A name that was released is not pending any more. -/
theorem releaseName_releasing
    (releasing : Releasing key (name :: pending) (entries.map CacheEntry.artifact) kernels) :
    Releasing key pending (entries.map CacheEntry.artifact)
      (releaseName key entries kernels name) := by
  rw [releaseName]
  split
  case h_1 next found =>
    obtain ⟨member, exported⟩ := latestExporter?_some found
    exact handOn_releasing releasing member exported
  case h_2 absent => exact giveUp_releasing releasing (latestExporter?_none absent)

/-- After all pending names were released there is an index again. -/
theorem releaseNames_indexed
    (releasing : Releasing key pending (entries.map CacheEntry.artifact) kernels) :
    Indexed (entries.map CacheEntry.artifact) (pending.foldl (releaseName key entries) kernels) := by
  induction pending generalizing kernels with
  | nil =>
      refine ⟨⟨releasing.names, ?_⟩, releasing.complete⟩
      intro kernel member
      simpa using releasing.sound kernel member
  | cons name rest ih => exact ih (releaseName_releasing releasing)

/-- The names after an assignment are those before it and the assigned one. -/
theorem mem_assignName (kernels : List (String × ArtifactKey)) (other : String) :
    other ∈ (assignName key kernels name).map Prod.fst ↔
      other = name ∨ other ∈ kernels.map Prod.fst := by
  rw [assignName, List.map_append, List.mem_append, List.map_singleton, List.mem_singleton]
  constructor
  · rintro (kept | same)
    · exact .inr ((List.filter_sublist.map Prod.fst).mem kept)
    · exact .inl same
  · rintro (same | member)
    · exact .inr same
    · by_cases same : other = name
      · exact .inr same
      · obtain ⟨kernel, kernelMember, rfl⟩ := List.mem_map.mp member
        exact .inl (List.mem_map_of_mem (List.mem_filter.mpr ⟨kernelMember, bne_iff_ne.mpr same⟩))

/-- The names after several assignments are those before them and the assigned ones. -/
theorem mem_assignNames (assigned : List String) (kernels : List (String × ArtifactKey))
    (other : String) :
    other ∈ (assigned.foldl (assignName key) kernels).map Prod.fst ↔
      other ∈ assigned ∨ other ∈ kernels.map Prod.fst := by
  induction assigned generalizing kernels with
  | nil => simp
  | cons name rest ih =>
      rw [List.foldl_cons, ih, mem_assignName, List.mem_cons]
      tauto

/-- An assignment of an exported name is sound. -/
theorem assignName_sound (sound : Sound artifacts kernels) (member : artifact ∈ artifacts)
    (exported : artifact.exports name) :
    Sound artifacts (assignName artifact.key kernels name) where
  names := by
    rw [assignName, List.map_append, List.map_singleton]
    refine List.nodup_append.mpr
      ⟨(List.filter_sublist.map Prod.fst).nodup sound.names, List.nodup_singleton name, ?_⟩
    intro other otherMember here hereMember same
    obtain ⟨kernel, kernelMember, rfl⟩ := List.mem_map.mp otherMember
    rw [List.mem_singleton.mp hereMember] at same
    exact bne_iff_ne.mp (List.mem_filter.mp kernelMember).2 same
  sound kernel kernelMember := by
    rw [assignName] at kernelMember
    rcases List.mem_append.mp kernelMember with kept | assigned
    · exact sound.sound kernel (List.mem_of_mem_filter kept)
    · rw [List.mem_singleton.mp assigned]
      exact ⟨artifact, member, rfl, exported⟩

/-- Assignments of exported names are sound. -/
theorem assignNames_sound (sound : Sound artifacts kernels) (member : artifact ∈ artifacts)
    {assigned : List String} (exported : ∀ name ∈ assigned, artifact.exports name) :
    Sound artifacts (assigned.foldl (assignName artifact.key) kernels) := by
  induction assigned generalizing kernels with
  | nil => exact sound
  | cons name rest ih =>
      exact ih (assignName_sound sound member (exported name (by simp)))
        fun other otherMember => exported other (List.mem_cons_of_mem _ otherMember)

variable {World : Type} {cache after : ArtifactCache World}

/-- No two artifacts in memory have the same key, and the kernel names index them. -/
structure Coherent (cache : ArtifactCache World) : Prop where
  keys : (cache.artifacts.map Artifact.key).Nodup
  indexed : Indexed cache.artifacts cache.kernels

namespace Coherent

/-- No two entries have the same key. -/
theorem distinct (coherent : cache.Coherent) : (cache.entries.map CacheEntry.key).Nodup := by
  have keys := coherent.keys
  rwa [ArtifactCache.artifacts, List.map_map] at keys

/-- Another cache with the same artifacts and the same names is coherent too. -/
theorem sameArtifacts (coherent : cache.Coherent) (same : after.artifacts = cache.artifacts)
    (sameNames : after.kernels = cache.kernels) : after.Coherent := by
  constructor
  · rw [same]
    exact coherent.keys
  · rw [same, sameNames]
    exact coherent.indexed

/-- The same memory is as coherent. -/
theorem sameMemory (coherent : cache.Coherent) (same : SameMemory cache after) : after.Coherent :=
  coherent.sameArtifacts (congrArg (List.map CacheEntry.artifact) same.entries) same.kernels

/-- A use changes no artifact. -/
theorem touch (coherent : cache.Coherent) (key : ArtifactKey) : (cache.touch key).Coherent := by
  refine coherent.sameArtifacts ?_ rfl
  rw [ArtifactCache.artifacts, ArtifactCache.artifacts, ArtifactCache.touch, List.map_map]
  apply List.map_congr_left
  intro entry _
  simp only [Function.comp_apply]
  split <;> rfl

/-- To forget a key hands its names on. -/
theorem forget (coherent : cache.Coherent) (key : ArtifactKey) : (cache.forget key).2.Coherent := by
  rw [ArtifactCache.forget]
  cases found : cache.find? key with
  | none => exact coherent
  | some entry =>
      obtain ⟨member, same⟩ := find?_some found
      have rest := Keyed.distinct_filter CacheEntry.key (fun entry => entry.key != key)
        coherent.distinct
      refine ⟨(List.map_map ..).symm ▸ rest, ?_⟩
      -- Only names of the entry that goes can stand for its key, and all of them are pending.
      refine releaseNames_indexed ⟨coherent.indexed.names, ?_, ?_⟩
      · intro kernel kernelMember
        obtain ⟨artifact, artifactMember, sameKey, exported⟩ :=
          coherent.indexed.sound kernel kernelMember
        obtain ⟨holder, holderMember, rfl⟩ := List.mem_map.mp artifactMember
        by_cases going : holder.key = key
        · have here := List.inj_on_of_nodup_map coherent.distinct holderMember member
            (going.trans same.symm)
          subst here
          exact .inr ⟨sameKey.symm.trans going, Artifact.exports_iff.mp exported⟩
        · have kept : holder ∈ cache.entries.filter fun entry => entry.key != key :=
            List.mem_filter.mpr ⟨holderMember, bne_iff_ne.mpr going⟩
          exact .inl ⟨holder.artifact, List.mem_map_of_mem kept, sameKey, exported⟩
      · intro artifact artifactMember name exported
        obtain ⟨holder, kept, rfl⟩ := List.mem_map.mp artifactMember
        exact coherent.indexed.complete holder.artifact
          (List.mem_map_of_mem (List.mem_of_mem_filter kept)) name exported

/-- Giving up entries hands their names on. -/
theorem evictOverflow (coherent : cache.Coherent) (count : Nat) :
    (ArtifactCache.evictOverflow count cache).Coherent := by
  induction count generalizing cache with
  | zero => exact coherent
  | succ count ih =>
      rw [ArtifactCache.evictOverflow]
      split
      · exact coherent
      · split
        · exact coherent
        case h_2 entry _ =>
          have evicted : (cache.evict entry.artifact.key).Coherent :=
            (coherent.forget entry.artifact.key).sameArtifacts rfl rfl
          exact ih evicted

/-- An artifact that is adopted takes its names over. -/
theorem adopt (coherent : cache.Coherent) (fresh : artifact.key ∉ cache.entries.map CacheEntry.key) :
    (cache.adopt artifact).Coherent := by
  have all : (cache.adopt artifact).artifacts = cache.artifacts ++ [artifact] := by
    rw [ArtifactCache.artifacts, adopt_entries fresh, List.map_append]
    rfl
  have here : artifact ∈ cache.artifacts ++ [artifact] := by simp
  constructor
  · rw [all, List.map_append, List.map_singleton]
    refine List.nodup_append.mpr ⟨coherent.keys, List.nodup_singleton _, ?_⟩
    intro key member other otherMember same
    rw [List.mem_singleton.mp otherMember] at same
    rw [ArtifactCache.artifacts, List.map_map] at member
    exact fresh (same ▸ member)
  · rw [all]
    refine ⟨assignNames_sound ⟨coherent.indexed.names, ?_⟩ here ?_, ?_⟩
    · intro kernel kernelMember
      obtain ⟨holder, holderMember, facts⟩ := coherent.indexed.sound kernel kernelMember
      exact ⟨holder, List.mem_append_left _ holderMember, facts⟩
    · intro name member
      exact Artifact.exports_iff.mpr member
    · intro holder holderMember name exported
      refine (mem_assignNames artifact.kernelNames cache.kernels name).mpr ?_
      rcases List.mem_append.mp holderMember with before | last
      · exact .inr (coherent.indexed.complete holder before name exported)
      · rw [List.mem_singleton.mp last] at exported
        exact .inl (Artifact.exports_iff.mp exported)

/-- An insertion keeps the index. -/
theorem insert (coherent : cache.Coherent) (fresh : artifact.key ∉ cache.entries.map CacheEntry.key) :
    (cache.insert artifact).Coherent :=
  (coherent.adopt fresh).evictOverflow _

/-- Every call keeps the index. -/
theorem step (coherent : cache.Coherent) (command : CacheCommand World) :
    (cache.step command).2.Coherent := by
  have effect := step_effect cache command
  generalize (cache.step command).2 = after at effect ⊢
  cases effect with
  | quiet same => exact coherent.sameMemory same
  | touch key same => exact (coherent.touch key).sameMemory same
  | insert same fresh => exact (coherent.sameMemory same).insert fresh
  | forget key same => exact (coherent.forget key).sameMemory same
  | clear => exact ⟨.nil, .empty⟩

end Coherent

/-- Every reachable cache is coherent. -/
theorem reachable_coherent (reachable : cache.Reachable) : cache.Coherent := by
  induction reachable with
  | create created =>
      rw [(create_ok created).2]
      exact ⟨.nil, .empty⟩
  | step _ command ih => exact ih.step command

namespace Coherent

/-- An artifact in memory is found by its key. -/
theorem find?_key (coherent : cache.Coherent) (member : artifact ∈ cache.artifacts) :
    ∃ entry, cache.find? artifact.key = some entry ∧ entry.artifact = artifact := by
  obtain ⟨entry, entryMember, rfl⟩ := List.mem_map.mp member
  exact ⟨entry, Keyed.find?_mem CacheEntry.key entryMember coherent.distinct, rfl⟩

/-- A name of the index finds the artifact that it stands for, which exports it. -/
theorem lookup_held (coherent : cache.Coherent) (named : cache.kernels.lookup name = some key) :
    ∃ entry, cache.find? key = some entry ∧ entry.artifact ∈ cache.artifacts ∧
      entry.artifact.exports name := by
  obtain ⟨front, back, same, -⟩ := List.lookup_eq_some_iff.mp named
  have member : (name, key) ∈ cache.kernels := by simp [same]
  obtain ⟨artifact, artifactMember, rfl, exported⟩ := coherent.indexed.sound _ member
  obtain ⟨entry, found, rfl⟩ := coherent.find?_key artifactMember
  exact ⟨entry, found, artifactMember, exported⟩

/-- A handle is of an artifact in memory that exports the name. -/
theorem kernel_held (coherent : cache.Coherent) {handle : KernelHandle}
    (found : (cache.kernel name).1 = some handle) :
    handle.name = name ∧ handle.artifact ∈ cache.artifacts ∧ handle.artifact.exports name := by
  rcases kernel_cases cache name with missed | ⟨key, entry, named, held, done⟩
  · rw [missed] at found
    cases found
  · rw [done] at found
    cases found
    obtain ⟨holder, holderFound, facts⟩ := coherent.lookup_held named
    rw [held] at holderFound
    cases holderFound
    exact ⟨rfl, facts⟩

/-- A name that an artifact in memory exports has a handle. -/
theorem kernel_found (coherent : cache.Coherent) (member : artifact ∈ cache.artifacts)
    (exported : artifact.exports name) : (cache.kernel name).1.isSome := by
  have listed := coherent.indexed.complete artifact member name exported
  obtain ⟨kernel, kernelMember, same⟩ := List.mem_map.mp listed
  have named : (cache.kernels.lookup name).isSome :=
    List.lookup_isSome_iff.mpr ⟨kernel, kernelMember, by simp [same]⟩
  obtain ⟨key, named⟩ := Option.isSome_iff_exists.mp named
  obtain ⟨entry, held, -⟩ := coherent.lookup_held named
  rw [ArtifactCache.kernel, named, Option.bind_some, held]
  rfl

end Coherent

/-- The kernels of the cache are those of the artifacts in memory: a name has a handle exactly if
an artifact in memory exports it, the handle is of such an artifact, and the number of kernels is
the number of different names. -/
structure Resolves (cache : ArtifactCache World) : Prop where
  found : ∀ name,
    (cache.kernel name).1.isSome ↔ ∃ artifact ∈ cache.artifacts, artifact.exports name
  held : ∀ name handle, (cache.kernel name).1 = some handle →
    handle.name = name ∧ handle.artifact ∈ cache.artifacts ∧ handle.artifact.exports name
  counted : cache.statistics.lookup "kernels" =
    some (cache.artifacts.flatMap Artifact.kernelNames).dedup.length

/-- Every reachable cache resolves its kernel names. -/
theorem reachable_resolves (reachable : cache.Reachable) : cache.Resolves := by
  have coherent := reachable_coherent reachable
  refine ⟨?_, ?_, ?_⟩
  · intro name
    constructor
    · intro found
      obtain ⟨handle, found⟩ := Option.isSome_iff_exists.mp found
      obtain ⟨-, member, exported⟩ := coherent.kernel_held found
      exact ⟨handle.artifact, member, exported⟩
    · rintro ⟨artifact, member, exported⟩
      exact coherent.kernel_found member exported
  · intro name handle found
    exact coherent.kernel_held found
  · exact congrArg some coherent.indexed.length

/-- An artifact with a repeated name counts its two names. -/
theorem reachable_resolves_echo : ∃ fresh : ArtifactCache Unit,
    create 1 .standard .echo () none = .ok fresh ∧
      let cache := (fresh.step (.compile "a" ["f", "g", "f"] ⟨0, 0⟩)).2
      cache.statistics.lookup "kernels" = some 2 ∧ cache.Resolves := by
  have created : create 1 .standard .echo () none = .ok _ := rfl
  exact ⟨_, created, rfl, reachable_resolves (.step (.create created) _)⟩

end ArtifactCache

end DeviceKernels
