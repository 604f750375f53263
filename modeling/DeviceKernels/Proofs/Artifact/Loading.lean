import DeviceKernels.Proofs.Artifact.StoreRefinement
import DeviceKernels.Proofs.Artifact.Transparency
import Mathlib

/-
What a load answers, read off the two files of its key: a description that names the key, a binary
with the described digest, and the removal of both when one of them is not what it should be.
-/

namespace DeviceKernels

open Directory

namespace Artifact

variable {artifact : Artifact} {metadata : ArtifactMetadata} {binary : Bytes}

/-- Beside a valid description another binary is taken for the described one exactly if it has the
same digest. -/
theorem ofParts_replaced (made : ofParts metadata binary = .ok artifact) (other : Bytes) :
    ofParts metadata other =
      if Sha256.hexDigest other = artifact.digest then .ok { artifact with binary := other }
      else .error (.hashMismatch metadata.key artifact.digest (Sha256.hexDigest other)) := by
  unfold ofParts at made ⊢
  cases valid : metadata.validate with
  | error fault => simp [valid, Except.mapError, bind, Except.bind] at made
  | ok =>
      cases named : ArtifactKey.ofHex? metadata.key with
      | none => simp [valid, named, Except.mapError, bind, Except.bind] at made
      | some key =>
          by_cases matching : Sha256.hexDigest binary = metadata.digest
          · simp only [valid, named, Except.mapError, bind, Except.bind, matching, bne_self_eq_false,
              Bool.false_eq_true, if_false, Except.ok.injEq] at made
            subst made
            simp [Except.mapError, bind, Except.bind, digest, matching]
          · simp [valid, named, Except.mapError, bind, Except.bind, matching] at made

end Artifact

namespace ArtifactStore

variable {store first second : ArtifactStore} {directory : Directory} {key : ArtifactKey}
  {artifact : Artifact}

/-- The description that is read under a key and names it. -/
structure Described (directory : Directory) (key : ArtifactKey) (metadata : ArtifactMetadata) :
    Prop where
  parsed : ∃ text, directory.readText (metadataName key) = .ok text ∧
    ArtifactMetadata.parse text = .ok metadata
  named : metadata.key = key.toHex

/-- A described entry is made of the description and the binary file. -/
theorem readEntry_described {metadata : ArtifactMetadata} {binary : Bytes} {executable : Bool}
    (described : Described directory key metadata)
    (found : directory.find? (binaryName key) = some (.file binary executable)) :
    readEntry directory key = Artifact.ofParts metadata binary := by
  obtain ⟨text, read, parsed⟩ := described.parsed
  simp [readEntry, read, parsed, described.named, found, Except.mapError, bind, Except.bind]

/-- An entry that is read has a description and a binary that make up its artifact. -/
theorem readEntry_parts (read : readEntry directory key = .ok artifact) :
    ∃ metadata executable, Described directory key metadata ∧
      directory.find? (binaryName key) = some (.file artifact.binary executable) ∧
      Artifact.ofParts metadata artifact.binary = .ok artifact := by
  obtain ⟨executable, found⟩ := readEntry_binary read
  unfold readEntry at read
  cases opened : directory.readText (metadataName key) with
  | error error => simp [opened, Except.mapError, bind, Except.bind] at read
  | ok text =>
      cases parsed : ArtifactMetadata.parse text with
      | error error => simp [opened, parsed, Except.mapError, bind, Except.bind] at read
      | ok metadata =>
          by_cases named : metadata.key = key.toHex
          · refine ⟨metadata, executable, ⟨⟨text, opened, parsed⟩, named⟩, found, ?_⟩
            simpa [opened, parsed, named, found, Except.mapError, bind, Except.bind] using read
          · simp [opened, parsed, named, Except.mapError, bind, Except.bind] at read

/-- A text that is read is the contents of a file. -/
theorem readText_found {name text : String}
    (read : directory.readText name = .ok text) :
    ∃ contents executable, directory.find? name = some (.file contents executable) := by
  cases found : directory.find? name with
  | none => simp [Directory.readText, Directory.read, found, bind, Except.bind] at read
  | some entry =>
      cases entry with
      | directory => simp [Directory.readText, Directory.read, found, bind, Except.bind] at read
      | file contents executable => exact ⟨contents, executable, rfl⟩

/-- An entry that is read has a regular file for its description. -/
theorem find?_of_readEntry (read : readEntry directory key = .ok artifact) :
    ∃ contents executable,
      directory.find? (metadataName key) = some (.file contents executable) := by
  obtain ⟨metadata, -, described, -⟩ := readEntry_parts read
  obtain ⟨text, opened, -⟩ := described.parsed
  exact readText_found opened

/-- Nothing is loaded exactly if there is no description. -/
theorem load_none :
    (store.load key).1 = .ok none ↔ store.directory.find? (metadataName key) = none := by
  unfold load holds
  cases store.directory.find? (metadataName key) with
  | none => simp
  | some entry =>
      simp only [Option.isSome_some, Bool.not_true, Bool.false_eq_true, if_false, reduceCtorEq,
        iff_false]
      repeat' split
      all_goals simp

/-- An artifact is loaded exactly if its entry is read. -/
theorem load_some :
    (store.load key).1 = .ok (some artifact) ↔ readEntry store.directory key = .ok artifact := by
  unfold load holds
  cases found : store.directory.find? (metadataName key) with
  | none =>
      simp [readEntry, Directory.readText, Directory.read, found, Except.mapError, bind, Except.bind]
  | some entry =>
      simp only [Option.isSome_some, Bool.not_true, Bool.false_eq_true, if_false]
      cases readEntry store.directory key with
      | ok read => simp
      | error error =>
          simp only [reduceCtorEq, iff_false]
          repeat' split
          all_goals simp

/-- What a removal answers depends on the two files of the key only. -/
theorem remove_congr
    (description : first.directory.find? (metadataName key) =
      second.directory.find? (metadataName key))
    (binary : first.directory.find? (binaryName key) = second.directory.find? (binaryName key)) :
    (first.remove key).1 = (second.remove key).1 := by
  have kept (directory : Directory) :
      (directory.erase (metadataName key)).find? (binaryName key) =
        directory.find? (binaryName key) := findEraseOther _ binaryName_ne_metadataName
  unfold remove discard Directory.remove
  rw [description]
  cases second.directory.find? (metadataName key) with
  | none =>
      dsimp only
      rw [binary]
      cases second.directory.find? (binaryName key) with
      | none => rfl
      | some entry => cases entry <;> rfl
  | some entry =>
      cases entry with
      | directory => rfl
      | file contents executable =>
          dsimp only
          rw [kept, kept, binary]
          cases second.directory.find? (binaryName key) with
          | none => rfl
          | some entry => cases entry <;> rfl

/-- What a load answers depends on the two files of the key only. -/
theorem load_congr
    (description : first.directory.find? (metadataName key) =
      second.directory.find? (metadataName key))
    (binary : first.directory.find? (binaryName key) = second.directory.find? (binaryName key)) :
    (first.load key).1 = (second.load key).1 := by
  have held : first.directory.holds (metadataName key) =
      second.directory.holds (metadataName key) := congrArg Option.isSome description
  have read : readEntry first.directory key = readEntry second.directory key := by
    simp only [readEntry, Directory.readText, Directory.read, description, binary]
  have removed := remove_congr description binary
  unfold load
  rw [held, read]
  split
  · rfl
  · cases readEntry second.directory key with
    | ok artifact => rfl
    | error error =>
        dsimp only
        split
        · cases one : first.remove key with
          | mk result left =>
              cases two : second.remove key with
              | mk other rest =>
                  rw [one, two] at removed
                  change result = other at removed
                  subst removed
                  cases result <;> rfl
        · rfl

/-- A load leaves what other keys give. -/
theorem load_load_other {other : ArtifactKey} (different : key ≠ other) :
    ((store.load other).2.load key).1 = (store.load key).1 := by
  apply load_congr
  · exact find?_load_other (mt metadataName_inj.mp different) binaryName_ne_metadataName.symm
  · exact find?_load_other binaryName_ne_metadataName (mt binaryName_inj.mp different)

/-- A removal leaves what other keys give. -/
theorem remove_load_other {other : ArtifactKey} (different : key ≠ other) :
    ((store.remove other).2.load key).1 = (store.load key).1 := by
  apply load_congr
  · exact find?_remove_other (mt metadataName_inj.mp different) binaryName_ne_metadataName.symm
  · exact find?_remove_other binaryName_ne_metadataName (mt binaryName_inj.mp different)

/-- To load an artifact changes nothing. -/
theorem load_artifact (loaded : (store.load key).1 = .ok (some artifact)) :
    store.load key = (.ok (some artifact), store) := by
  have read := load_some.mp loaded
  obtain ⟨contents, executable, found⟩ := find?_of_readEntry read
  simp only [load, holds, found, read, Option.isSome_some, Bool.not_true, Bool.false_eq_true,
    if_false]

/-- A corrupt entry is reported and both files are removed, where no directory has their names. -/
theorem load_corrupt {error : CompileError} (described : store.directory.holds (metadataName key))
    (description : store.directory.find? (metadataName key) ≠ some .directory)
    (binary : store.directory.find? (binaryName key) ≠ some .directory)
    (failed : readEntry store.directory key = .error error) (corrupt : error.isCorruption) :
    store.load key = (.error error, { store with
      directory := (store.directory.erase (metadataName key)).erase (binaryName key) }) := by
  rw [load, described, failed, remove_regular description binary]
  simp only [Bool.not_true, Bool.false_eq_true, if_false, corrupt, if_true]

/-- Once both files of a key were removed nothing is loaded under it. -/
theorem load_removed (store : ArtifactStore) (key : ArtifactKey) :
    ((ArtifactStore.mk store.path
      ((store.directory.erase (metadataName key)).erase (binaryName key))).load key).1 =
        .ok none := by
  rw [load_none, Directory.erase_comm]
  apply findEraseSame

end ArtifactStore

end DeviceKernels
