import DeviceKernels.Proofs.Artifact.Interruption
import DeviceKernels.Proofs.Outcome

/-
Entries with arbitrary files. Whatever stands in the two files of a key, a load gives an artifact
that is what its description says, or it reports what is wrong and removes both files.
-/

namespace DeviceKernels

open Directory

/-- A valid description names a kernel. -/
theorem ArtifactMetadata.names_of_validate {metadata : ArtifactMetadata}
    (valid : metadata.validate = .ok ()) : metadata.kernelNames ≠ [] := by
  obtain ⟨-, rest⟩ := Outcome.refused_iff.mp valid
  obtain ⟨-, last⟩ := Outcome.refused_iff.mp rest
  obtain ⟨exported, -⟩ := Outcome.refused_iff.mp last
  intro none
  exact exported (none ▸ rfl)

namespace Artifact

variable {metadata : ArtifactMetadata} {binary : Bytes} {artifact : Artifact}

/-- A description and a binary that make no artifact are corrupt. -/
theorem ofParts_error {error : CompileError} (failed : ofParts metadata binary = .error error) :
    error.isCorruption := by
  unfold ofParts at failed
  cases checked : metadata.validate with
  | error fault =>
      simp only [checked, Except.mapError, bind, Except.bind, Except.error.injEq] at failed
      subst failed
      rfl
  | ok =>
      cases named : ArtifactKey.ofHex? metadata.key with
      | none =>
          simp only [checked, named, Except.mapError, bind, Except.bind, Except.error.injEq] at failed
          subst failed
          rfl
      | some key =>
          simp only [checked, named, Except.mapError, bind, Except.bind] at failed
          split at failed
          · cases failed
            rfl
          · cases failed

/-- An artifact exports a kernel, and but for the size, which nothing looks at, the description
under its key is its own. -/
theorem ofParts_ok (made : ofParts metadata binary = .ok artifact)
    (named : metadata.key = artifact.key.toHex) :
    artifact.kernelNames ≠ [] ∧ metadata = { artifact.metadata with size := metadata.size } := by
  obtain ⟨checked, made⟩ := Outcome.of_checked made
  have exported := ArtifactMetadata.names_of_validate (Outcome.mapError_ok.mp checked)
  split at made
  case h_1 => cases made
  case h_2 key read =>
    obtain ⟨matching, same⟩ := Outcome.refused_iff.mp made
    cases same
    have digest : Sha256.hexDigest binary = metadata.digest := by simpa using matching
    refine ⟨exported, ?_⟩
    simp only [Artifact.metadata, Artifact.digest, digest, ← named]

end Artifact

namespace ArtifactStore

variable {store : ArtifactStore} {directory : Directory} {key : ArtifactKey} {artifact : Artifact}

/-- An entry with a description that is text is read, or it is corrupt. -/
theorem readEntry_error {error : CompileError} {text : String}
    (binary : directory.find? (binaryName key) ≠ some .directory)
    (read : directory.readText (metadataName key) = .ok text)
    (failed : readEntry directory key = .error error) : error.isCorruption := by
  unfold readEntry at failed
  cases parsed : ArtifactMetadata.parse text with
  | error reason =>
      simp only [read, parsed, Except.mapError, bind, Except.bind, Except.error.injEq] at failed
      subst failed
      unfold ArtifactMetadata.parse at parsed
      split at parsed
      · cases parsed
      · cases parsed
        rfl
  | ok metadata =>
      simp only [read, parsed, Except.mapError, bind, Except.bind] at failed
      split at failed
      · cases failed
        rfl
      · split at failed
        case h_1 =>
          cases failed
          rfl
        case h_2 found => exact absurd found binary
        case h_3 => exact Artifact.ofParts_error failed

/-- A description whose bytes are no text is an error of its file, and the entry stays. -/
theorem load_notText (garbled : store.directory.readText (metadataName key) = .error .notText) :
    store.load key = (.error (.file .notText), store) := by
  have failed : readEntry store.directory key = .error (.file .notText) := by
    rw [readEntry, garbled]
    rfl
  have held : store.directory.holds (metadataName key) := by
    rw [holds, Option.isSome_iff_ne_none]
    intro missing
    simp [Directory.readText, Directory.read, missing, bind, Except.bind] at garbled
  rw [load, held, failed]
  rfl

/-- What a load does with a key when no directory has the name of one of its two files. -/
structure Settles (store : ArtifactStore) (key : ArtifactKey) : Prop where
  /-- Nothing is loaded exactly if there is no description, and then nothing changes. -/
  absent : (store.load key).1 = .ok none ↔ store.directory.find? (metadataName key) = none
  unchanged : (store.load key).1 = .ok none → (store.load key).2 = store
  /-- An artifact is loaded as it is described, and both files stay. -/
  valid : ∀ artifact, (store.load key).1 = .ok (some artifact) →
    (store.load key).2 = store ∧ artifact.key = key ∧ artifact.kernelNames ≠ [] ∧
      ∃ metadata executable, Described store.directory key metadata ∧
        metadata = { artifact.metadata with size := metadata.size } ∧
        store.directory.find? (binaryName key) = some (.file artifact.binary executable)
  /-- A description that is no text is reported by every load, and both files stay. -/
  garbled : store.directory.readText (metadataName key) = .error .notText →
    store.load key = (.error (.file .notText), store)
  /-- Any other error is one of a corrupt entry. Both files are gone after it, and the next load
  finds nothing. -/
  discarded : ∀ error, (store.load key).1 = .error error →
    store.directory.readText (metadataName key) ≠ .error .notText →
      error.isCorruption ∧
        (store.load key).2.directory.find? (metadataName key) = none ∧
        (store.load key).2.directory.find? (binaryName key) = none ∧
        (store.load key).2.load key = (.ok none, (store.load key).2)
  /-- No other file changes. -/
  others : ∀ name, name ≠ metadataName key → name ≠ binaryName key →
    (store.load key).2.directory.find? name = store.directory.find? name

/-- A regular file is a text, or its bytes are not UTF-8. -/
theorem readText_cases {name : String} (regular : directory.find? name ≠ some .directory)
    (present : directory.find? name ≠ none) :
    directory.readText name = .error .notText ∨ ∃ text, directory.readText name = .ok text := by
  cases found : directory.find? name with
  | none => exact absurd found present
  | some entry =>
      cases entry with
      | directory => exact absurd found regular
      | file contents executable =>
          simp only [Directory.readText, Directory.read, found, bind, Except.bind]
          cases Text.ofUtf8? contents with
          | none => exact .inl rfl
          | some text => exact .inr ⟨text, rfl⟩

/-- Without a description a load changes nothing. -/
theorem load_absent (missing : store.directory.find? (metadataName key) = none) :
    store.load key = (.ok none, store) := by
  simp only [load, holds, missing, Option.isSome_none, Bool.not_false, if_true]

/-- A load under a key whose files are regular or missing is settled. -/
theorem load_settles (description : store.directory.find? (metadataName key) ≠ some .directory)
    (binary : store.directory.find? (binaryName key) ≠ some .directory) :
    store.Settles key where
  absent := load_none
  unchanged missing := by rw [load_absent (load_none.mp missing)]
  valid artifact loaded := by
    have read := load_some.mp loaded
    obtain ⟨metadata, executable, described, found, made⟩ := readEntry_parts read
    have own := ArtifactCache.readEntry_key read
    have named : metadata.key = artifact.key.toHex := own ▸ described.named
    obtain ⟨exported, same⟩ := Artifact.ofParts_ok made named
    refine ⟨?_, own, exported, metadata, executable, described, same, found⟩
    rw [load_artifact loaded]
  garbled := load_notText
  discarded error failed readable := by
    have present : store.directory.find? (metadataName key) ≠ none := by
      intro missing
      rw [load_absent missing] at failed
      cases failed
    -- The description is there and is text, so what fails is what it says or the binary.
    obtain ⟨text, read⟩ := (readText_cases description present).resolve_left readable
    cases entry : readEntry store.directory key with
    | ok artifact =>
        rw [load_some.mpr entry] at failed
        cases failed
    | error reason =>
        have corrupt := readEntry_error binary read entry
        have held : store.directory.holds (metadataName key) :=
          Option.isSome_iff_ne_none.mpr present
        have removed := load_corrupt held description binary entry corrupt
        rw [removed] at failed ⊢
        cases failed
        have gone := load_none.mp (load_removed store key)
        exact ⟨corrupt, gone, findEraseSame _ _, load_absent gone⟩
  others name other different := find?_load_other other different

/-- A store with one artifact whose description was overwritten. -/
def overwritten (artifact : Artifact) (description : Bytes) : ArtifactStore where
  path := "cache"
  directory := (withFiles .empty artifact).put (metadataName artifact.key) (.file description false)

/-- The description of the artifact is the overwritten one, its binary is still there, and there is
no temporary file. -/
theorem find?_overwritten (artifact : Artifact) (description : Bytes) :
    (overwritten artifact description).directory.find? (metadataName artifact.key) =
        some (.file description false) ∧
      (overwritten artifact description).directory.find? (binaryName artifact.key) =
        some (.file artifact.binary false) ∧
      (overwritten artifact description).directory.find? temporaryName = none := by
  have plain : (overwritten artifact description).directory.IsPlain :=
    (withFiles_plain .empty artifact).put metadataName_ne_temporaryName description
  refine ⟨findPutSame _ _ _, ?_, plain.noTemporary⟩
  rw [overwritten, findPutOther _ _ binaryName_ne_metadataName, find?_withFiles_binary, if_pos rfl]

/-- Bytes that are not UTF-8 are read as no text. -/
theorem overwritten_garbled (artifact : Artifact) :
    (overwritten artifact [0xFF]).load artifact.key =
      (.error (.file .notText), overwritten artifact [0xFF]) := by
  have noText : Text.ofUtf8? [0xFF] = none := by decide +kernel
  apply load_notText
  simp only [Directory.readText, Directory.read, (find?_overwritten artifact [0xFF]).1, bind,
    Except.bind, noText]

/-- A description that breaks off is thrown away with its binary. -/
theorem load_settles_truncated : ∃ (store : ArtifactStore) (key : ArtifactKey),
    store.directory.find? (metadataName key) ≠ some .directory ∧
      store.directory.find? (binaryName key) ≠ some .directory ∧ store.Settles key ∧
      (store.load key).1 = .error (.metadata .unreadable) := by
  let store := overwritten (edition 1) (Text.utf8 "\x7b")
  obtain ⟨description, binary, -⟩ := find?_overwritten (edition 1) (Text.utf8 "\x7b")
  have regular : store.directory.find? (metadataName (edition 1).key) ≠ some .directory := by
    simp [store, description]
  have other : store.directory.find? (binaryName (edition 1).key) ≠ some .directory := by
    simp [store, binary]
  refine ⟨store, (edition 1).key, regular, other, load_settles regular other, ?_⟩
  have unreadable : ArtifactMetadata.parse "\x7b" = .error (.metadata .unreadable) := by
    decide +kernel
  have failed : readEntry store.directory (edition 1).key = .error (.metadata .unreadable) := by
    rw [readEntry, readText_utf8 description]
    simp only [Except.mapError, bind, Except.bind, unreadable]
  have held : store.directory.holds (metadataName (edition 1).key) := by
    rw [holds, description]
    rfl
  rw [load_corrupt held regular other failed rfl]

/-- A description that is no text is an error under which both files stay, and the next load fails
again. -/
theorem garbled_description_stays : ∃ (store : ArtifactStore) (key : ArtifactKey),
    store.directory.find? (metadataName key) = some (.file [0xFF] false) ∧
      store.directory.find? (binaryName key) = some (.file [1] false) ∧
      store.load key = (.error (.file .notText), store) ∧
      ((store.load key).2.load key).1 ≠ .ok none := by
  obtain ⟨description, binary, -⟩ := find?_overwritten (edition 1) [0xFF]
  have settled := overwritten_garbled (edition 1)
  refine ⟨_, _, description, binary, settled, ?_⟩
  rw [settled, settled]
  simp

end ArtifactStore

end DeviceKernels
