import DeviceKernels.Proofs.Artifact.Custody
import DeviceKernels.Proofs.Artifact.Interruption

/-
The kernel names in the descriptions of a store. Whatever a description is read as, it names the
kernels that were written into it, so a store gives back every artifact with the kernel names that
it was saved with.
-/

namespace DeviceKernels

open Directory

/-- A description that is read back names the kernels that it was written with. -/
theorem ArtifactMetadata.parse_render_names {metadata found : ArtifactMetadata}
    (read : parse metadata.render = .ok found) : found.kernelNames = metadata.kernelNames := by
  rw [parse, parseRecord?_render, Option.bind_some] at read
  split at read
  case h_2 => cases read
  case h_1 parsed made =>
    cases read
    obtain ⟨distinct, fields⟩ := record?_toJson metadata
    rw [ofJson?, distinct, fields] at made
    simp only [Option.bind_eq_bind, Option.bind_some, Json.required?_texts, Bool.not_true,
      Bool.false_eq_true, if_false] at made
    obtain ⟨key, -, made⟩ := Option.bind_eq_some_iff.1 made
    obtain ⟨arch, -, made⟩ := Option.bind_eq_some_iff.1 made
    obtain ⟨compiler, -, made⟩ := Option.bind_eq_some_iff.1 made
    obtain ⟨createdAt, -, made⟩ := Option.bind_eq_some_iff.1 made
    obtain ⟨digest, -, made⟩ := Option.bind_eq_some_iff.1 made
    obtain ⟨size, -, made⟩ := Option.bind_eq_some_iff.1 made
    rw [← Option.some.inj made]

/-- An artifact has the kernel names of its description. -/
theorem Artifact.ofParts_names {metadata : ArtifactMetadata} {binary : Bytes} {artifact : Artifact}
    (made : ofParts metadata binary = .ok artifact) :
    artifact.kernelNames = metadata.kernelNames := by
  simp only [ofParts, bind, Except.bind] at made
  repeat' split at made
  all_goals cases made
  rfl

namespace ArtifactStore

variable {store after : ArtifactStore} {right : ArtifactKey → List String → Prop}
  {key : ArtifactKey} {artifact : Artifact} {metadata : ArtifactMetadata}

/-- A description depends on its file only. -/
theorem Described.congr {directory other : Directory} (described : Described directory key metadata)
    (same : other.find? (metadataName key) = directory.find? (metadataName key)) :
    Described other key metadata := by
  refine ⟨?_, described.named⟩
  obtain ⟨text, read, parsed⟩ := described.parsed
  refine ⟨text, ?_, parsed⟩
  rw [← read]
  simp only [Directory.readText, Directory.read, same]

/-- A description that was written for an artifact names its kernels. -/
theorem described_written {directory : Directory}
    (described : Described directory artifact.key metadata)
    (written : directory.find? (metadataName artifact.key) =
      some (.file (Text.utf8 artifact.metadata.render) false)) :
    metadata.kernelNames = artifact.kernelNames := by
  obtain ⟨text, read, parsed⟩ := described.parsed
  rw [readText_utf8 written] at read
  cases read
  exact ArtifactMetadata.parse_render_names parsed

/-- After a save the description of the artifact is its own, or it is as it was. -/
theorem find?_save_description (store : ArtifactStore) (artifact : Artifact) :
    (store.save artifact).2.directory.find? (metadataName artifact.key) ∈
      [store.directory.find? (metadataName artifact.key),
        some (.file (Text.utf8 artifact.metadata.render) false)] := by
  have split : saveSteps artifact =
      [.write temporaryName artifact.binary, .rename temporaryName (binaryName artifact.key)] ++
        [.write temporaryName (Text.utf8 artifact.metadata.render),
          .rename temporaryName (metadataName artifact.key)] := rfl
  have untouched : (takeSteps store.directory [.write temporaryName artifact.binary,
      .rename temporaryName (binaryName artifact.key)]).2.find? (metadataName artifact.key) =
        store.directory.find? (metadataName artifact.key) := by
    apply takeSteps_other metadataName_ne_temporaryName
    simp [stepNames, metadataName_ne_temporaryName, binaryName_ne_metadataName.symm]
  rw [save, split, takeSteps_append]
  generalize takeSteps store.directory [.write temporaryName artifact.binary,
    .rename temporaryName (binaryName artifact.key)] = begun at untouched
  obtain ⟨result, left⟩ := begun
  rw [← untouched]
  cases result with
  | error error => exact List.mem_cons_self
  | ok => exact takeSteps_named left metadataName_ne_temporaryName _

/-- Every description names right kernels for its key. -/
def DescribesRight (right : ArtifactKey → List String → Prop) (store : ArtifactStore) : Prop :=
  ∀ key metadata, Described store.directory key metadata → right key metadata.kernelNames

namespace DescribesRight

/-- An empty directory describes nothing. -/
theorem empty (clean : store.directory = .empty) : store.DescribesRight right := by
  intro key metadata described
  obtain ⟨text, read, -⟩ := described.parsed
  obtain ⟨contents, executable, found⟩ := readText_found read
  rw [clean] at found
  cases found

/-- With fewer files the descriptions are as right. -/
theorem shrinks (names : store.DescribesRight right)
    (less : Shrinks store.directory after.directory) : after.DescribesRight right := by
  intro key metadata described
  obtain ⟨text, read, -⟩ := described.parsed
  obtain ⟨contents, executable, found⟩ := readText_found read
  exact names key metadata (described.congr ((less _ _ found).trans found.symm))

/-- A save of right names keeps the descriptions right, whether it succeeds or not. -/
theorem save (names : store.DescribesRight right) (own : right artifact.key artifact.kernelNames) :
    (store.save artifact).2.DescribesRight right := by
  intro key metadata described
  by_cases same : key = artifact.key
  · subst same
    rcases List.mem_cons.mp (find?_save_description store artifact) with kept | written
    · exact names _ metadata (described.congr kept.symm)
    · rw [described_written described (List.mem_singleton.mp written)]
      exact own
  · refine names key metadata (described.congr ?_)
    rw [← interrupt_finished (le_refl 4)]
    exact (interrupt_other metadataName_ne_temporaryName binaryName_ne_metadataName.symm
      (mt metadataName_inj.mp same)).symm

/-- What is loaded names right kernels. -/
theorem loaded (names : store.DescribesRight right)
    (answered : (store.load key).1 = .ok (some artifact)) :
    right artifact.key artifact.kernelNames := by
  have read := load_some.1 answered
  obtain ⟨metadata, executable, described, -, made⟩ := readEntry_parts read
  rw [ArtifactCache.readEntry_key read, Artifact.ofParts_names made]
  exact names key metadata described

end DescribesRight

/-- Right descriptions stay right in any directory. -/
theorem custody_described (right : ArtifactKey → List String → Prop) :
    Custody (DescribesRight right) fun artifact => right artifact.key artifact.kernelNames :=
  ⟨DescribesRight.shrinks, DescribesRight.save, DescribesRight.loaded⟩

/-- Every description in a plain directory names right kernels for its key. -/
structure NamesRight (right : ArtifactKey → List String → Prop) (store : ArtifactStore) : Prop where
  plain : store.directory.IsPlain
  described : ∀ key metadata, Described store.directory key metadata →
    right key metadata.kernelNames

namespace NamesRight

theorem empty (clean : store.directory = .empty) : store.NamesRight right :=
  ⟨clean ▸ .empty, DescribesRight.empty clean⟩

theorem shrinks (names : store.NamesRight right) (less : Shrinks store.directory after.directory) :
    after.NamesRight right :=
  ⟨names.plain.shrinks less, DescribesRight.shrinks names.described less⟩

theorem save (names : store.NamesRight right) (own : right artifact.key artifact.kernelNames) :
    (store.save artifact).2.NamesRight right := by
  refine ⟨?_, DescribesRight.save names.described own⟩
  rw [save_plain names.plain]
  exact withFiles_plain names.plain artifact

end NamesRight

/-- Right names stay right in the store. -/
theorem custody_names (right : ArtifactKey → List String → Prop) :
    Custody (NamesRight right) fun artifact => right artifact.key artifact.kernelNames :=
  ⟨NamesRight.shrinks, NamesRight.save, fun names => DescribesRight.loaded names.described⟩

end ArtifactStore

end DeviceKernels
