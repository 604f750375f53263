import DeviceKernels.Proofs.Artifact.Metadata
import DeviceKernels.Proofs.Artifact.StoreMap
import Mathlib.Data.Int.Order.Basic
import Mathlib.Data.String.Basic

/-
The store refines the map. The directory of a store that holds the artifacts of a map has their
files and no others, in the order of the map, and every call keeps it so.
-/

namespace DeviceKernels

/-- The order of instants is that of their seconds, and within a second of their nanoseconds. -/
theorem Instant.notAfter_iff {first second : Instant} :
    first.notAfter second ↔ first.seconds < second.seconds ∨
      first.seconds = second.seconds ∧ first.nanoseconds ≤ second.nanoseconds := by
  rw [Instant.notAfter, Instant.compare, bne_iff_ne, ne_eq, Ordering.then_eq_gt]
  simp only [compare_gt_iff_gt, compare_eq_iff_eq]
  omega

/-- The digits of bytes are two for each, of one byte each, and can be read. -/
theorem Text.hexDigits_read (bytes : Bytes) :
    String.utf8Len (hexDigits bytes) = 2 * bytes.length ∧
      ∀ digit ∈ hexDigits bytes, (hexValue? digit).isSome := by
  have digits : ∀ value : Fin 16, (hexDigit value).utf8Size = 1 ∧
      (hexValue? (hexDigit value)).isSome := by decide
  induction bytes with
  | nil => simp [hexDigits]
  | cons byte rest ih =>
      have high := digits ⟨byte.toNat / 16, by have := byte.toNat_lt; omega⟩
      have low := digits ⟨byte.toNat % 16, Nat.mod_lt _ (by decide)⟩
      constructor
      · rw [hexDigits, String.utf8Len_cons, String.utf8Len_cons, ih.1, high.1, low.1,
          List.length_cons]
        omega
      · intro digit member
        rw [hexDigits, List.mem_cons, List.mem_cons] at member
        rcases member with rfl | rfl | member
        · exact high.2
        · exact low.2
        · exact ih.2 digit member

/-- The digits of 32 bytes are a digest. -/
theorem ArtifactMetadata.isDigest_hex {bytes : Bytes} (length : bytes.length = 32) :
    isDigest (Text.hex bytes) = true := by
  have size : Text.utf8Length (Text.hex bytes) = 64 := by
    have counted := String.utf8ByteSize_ofList (Text.hexDigits bytes)
    rw [(Text.hexDigits_read bytes).1, length] at counted
    exact counted
  rw [isDigest, size, Text.hex, String.toList_ofList, Bool.and_eq_true, List.all_eq_true]
  exact ⟨rfl, (Text.hexDigits_read bytes).2⟩

namespace Artifact

variable {artifact : Artifact}

/-- An artifact that a store gives back: it exports a kernel, and its description is read as it is
written. -/
structure Storable (artifact : Artifact) : Prop where
  exported : artifact.kernelNames ≠ []
  readable : ArtifactMetadata.parse artifact.metadata.render = .ok artifact.metadata

/-- A store gives back every artifact that exports a kernel and whose description is in range. -/
theorem storable (exported : artifact.kernelNames ≠ []) (inRange : artifact.metadata.InRange) :
    artifact.Storable :=
  ⟨exported, ArtifactMetadata.parse_render inRange⟩

/-- The description of an artifact and its binary make up the artifact. -/
theorem ofParts_metadata (exported : artifact.kernelNames ≠ []) :
    ofParts artifact.metadata artifact.binary = .ok artifact := by
  have key : ArtifactMetadata.isDigest artifact.metadata.key = true :=
    ArtifactMetadata.isDigest_hex artifact.key.length
  have digest : ArtifactMetadata.isDigest artifact.metadata.digest = true :=
    ArtifactMetadata.isDigest_hex (Sha256.lengthDigest artifact.binary)
  have valid : artifact.metadata.validate = .ok () := by
    rw [ArtifactMetadata.validate, key, digest]
    simpa [metadata] using exported
  have read : ArtifactKey.ofHex? artifact.metadata.key = some artifact.key :=
    ArtifactKey.ofHexToHex artifact.key
  have same : (Sha256.hexDigest artifact.binary != artifact.metadata.digest) = false :=
    bne_self_eq_false _
  simp only [ofParts, valid, read, same]
  rfl

end Artifact

namespace ArtifactStore

open Directory

variable {key : ArtifactKey} {held : List Artifact} {artifact : Artifact}

/-- The files of an artifact. -/
def files (artifact : Artifact) : List (String × Entry) :=
  [(binaryName artifact.key, .file artifact.binary false),
    (metadataName artifact.key, .file (Text.utf8 artifact.metadata.render) false)]

/-- The directory of the files of some artifacts. -/
def directoryOf (held : List Artifact) : Directory := ⟨held.flatMap files⟩

/-- A name that one file of each artifact has under its key is found under that key. -/
theorem find?_directoryOf {name : String} (entry : Artifact → Entry)
    (own : ∀ artifact, (files artifact).lookup name =
      if artifact.key = key then some (entry artifact) else none) (held : List Artifact) :
    (directoryOf held).find? name =
      (held.find? fun artifact => artifact.key == key).map entry := by
  rw [directoryOf, Directory.find?]
  induction held with
  | nil => rfl
  | cons artifact rest ih =>
      rw [List.flatMap_cons, List.lookup_append, own, ih]
      by_cases same : artifact.key = key
      · rw [if_pos same, List.find?_cons_of_pos (by simpa using same)]
        rfl
      · rw [if_neg same, List.find?_cons_of_neg (by simpa using same)]
        rfl

theorem find?_binary (held : List Artifact) (key : ArtifactKey) :
    (directoryOf held).find? (binaryName key) =
      (held.find? fun artifact => artifact.key == key).map fun artifact =>
        .file artifact.binary false := by
  apply find?_directoryOf
  intro artifact
  have metadata : (binaryName key == metadataName artifact.key) = false :=
    beq_false_of_ne binaryName_ne_metadataName
  rw [files, List.lookup_cons, List.lookup_cons, metadata, List.lookup_nil]
  by_cases same : artifact.key = key
  · rw [if_pos same, same, beq_self_eq_true]
  · rw [if_neg same, beq_false_of_ne (mt binaryName_inj.mp (Ne.symm same))]

theorem find?_metadata (held : List Artifact) (key : ArtifactKey) :
    (directoryOf held).find? (metadataName key) =
      (held.find? fun artifact => artifact.key == key).map fun artifact =>
        .file (Text.utf8 artifact.metadata.render) false := by
  apply find?_directoryOf
  intro artifact
  have binary : (metadataName key == binaryName artifact.key) = false :=
    beq_false_of_ne binaryName_ne_metadataName.symm
  rw [files, List.lookup_cons, List.lookup_cons, binary, List.lookup_nil]
  by_cases same : artifact.key = key
  · rw [if_pos same, same, beq_self_eq_true]
  · rw [if_neg same, beq_false_of_ne (mt metadataName_inj.mp (Ne.symm same))]

/-- The files of artifacts are regular files under lasting names. -/
theorem directoryOf_plain (held : List Artifact) : (directoryOf held).IsPlain where
  noTemporary := by
    refine Directory.find?_none.mpr fun member => ?_
    obtain ⟨file, own, same⟩ := List.mem_map.mp member
    obtain ⟨artifact, -, own⟩ := List.mem_flatMap.mp own
    rcases List.mem_cons.mp own with rfl | own
    · exact binaryName_ne_temporaryName same
    · rw [List.mem_singleton.mp own] at same
      exact metadataName_ne_temporaryName same
  regular name found := by
    obtain ⟨before, after, split, -⟩ := List.lookup_eq_some_iff.mp found
    have member : (name, Entry.directory) ∈ (directoryOf held).entries := by
      rw [split]
      simp
    obtain ⟨artifact, -, own⟩ := List.mem_flatMap.mp member
    simp [files] at own

/-- To erase both files of a key is to forget its artifact. -/
theorem erase_files (held : List Artifact) (key : ArtifactKey) :
    ((directoryOf held).erase (metadataName key)).erase (binaryName key) =
      directoryOf (held.filter fun artifact => artifact.key != key) := by
  have own (artifact : Artifact) : (files artifact).filter (fun file =>
      file.1 != binaryName key && file.1 != metadataName key) =
        if artifact.key = key then [] else files artifact := by
    by_cases same : artifact.key = key
    · simp [files, same]
    · simp [files, same, binaryName_inj, metadataName_inj, binaryName_ne_metadataName,
        binaryName_ne_metadataName.symm]
  refine congrArg Directory.mk ?_
  refine (List.filter_filter ..).trans ?_
  rw [directoryOf, List.filter_flatMap]
  induction held with
  | nil => rfl
  | cons artifact rest ih =>
      rw [List.flatMap_cons, own, ih]
      by_cases same : artifact.key = key
      · rw [if_pos same, List.filter_cons_of_neg (by simpa using same)]
        rfl
      · rw [if_neg same, List.filter_cons_of_pos (by simpa using same), List.flatMap_cons]

/-- To write the files of an artifact is to hold it in place of any other with its key. -/
theorem withFiles_files (held : List Artifact) (artifact : Artifact) :
    withFiles (directoryOf held) artifact =
      directoryOf ((held.filter fun other => other.key != artifact.key) ++ [artifact]) := by
  have erased := congrArg Directory.entries (erase_files held artifact.key)
  rw [Directory.erase_comm] at erased
  have kept : [(binaryName artifact.key, Entry.file artifact.binary false)].filter (fun file =>
      file.1 != metadataName artifact.key) = [(binaryName artifact.key, .file artifact.binary false)] :=
    List.filter_cons_of_pos (bne_iff_ne.mpr binaryName_ne_metadataName)
  refine congrArg Directory.mk ?_
  rw [Directory.erase, Directory.put, List.filter_append, kept, List.flatMap_append,
    List.flatMap_singleton, List.append_assoc]
  exact congrArg (· ++ files artifact) erased

/-- A file of an encoded text is read as the text. -/
theorem readText_utf8 {directory : Directory} {name text : String} {executable : Bool}
    (found : directory.find? name = some (.file (Text.utf8 text) executable)) :
    directory.readText name = .ok text := by
  have read : directory.read name = .ok (Text.utf8 text) := by rw [Directory.read, found]
  simp only [Directory.readText, read, bind, Except.bind, Text.ofUtf8?_utf8]

/-- An artifact that can be given back is read whole from its two files. -/
theorem readEntry_storable {directory : Directory} {executable : Bool} (storable : artifact.Storable)
    (description : directory.readText (metadataName artifact.key) = .ok artifact.metadata.render)
    (binary : directory.find? (binaryName artifact.key) =
      some (.file artifact.binary executable)) :
    readEntry directory artifact.key = .ok artifact := by
  have own : (artifact.metadata.key != artifact.key.toHex) = false := bne_self_eq_false _
  simp only [readEntry, description, Except.mapError, bind, Except.bind, storable.readable, own,
    Bool.false_eq_true, if_false, binary]
  exact Artifact.ofParts_metadata storable.exported

/-- A clearing removes a first file of either kind. -/
theorem clearEntries_head {name : String} {entries : List (String × Entry)}
    (absent : (Directory.mk entries).find? name = none) (contents : Bytes) (count : Nat)
    (kind : Path.extension? name = some "json" ∨ Path.extension? name = some "bin") :
    clearEntries ⟨(name, .file contents false) :: entries⟩ count
        ((name, .file contents false) :: entries) =
      clearEntries ⟨entries⟩ (if Path.extension? name = some "json" then count + 1 else count)
        entries := by
  have found : (Directory.mk ((name, .file contents false) :: entries)).find? name =
      some (.file contents false) := by
    rw [Directory.find?, List.lookup_cons, beq_self_eq_true]
  have left : (Directory.mk ((name, .file contents false) :: entries)).erase name = ⟨entries⟩ := by
    refine Eq.trans (congrArg Directory.mk ?_) (erase_absent absent)
    exact List.filter_cons_of_neg (by simp)
  have removed : (Directory.mk ((name, .file contents false) :: entries)).remove name =
      .ok ⟨entries⟩ := by
    rw [Directory.remove, found, left]
  rw [clearEntries, removed]
  simp [kind]

/-- A clearing removes the files of every artifact and counts the artifacts. -/
theorem clearEntries_files (distinct : (held.map Artifact.key).Nodup) (count : Nat) :
    clearEntries (directoryOf held) count (directoryOf held).entries =
      (.ok (count + held.length), .empty) := by
  induction held generalizing count with
  | nil => rfl
  | cons artifact rest ih =>
      obtain ⟨fresh, distinctRest⟩ := List.nodup_cons.mp distinct
      have missing : (rest.find? fun other => other.key == artifact.key) = none := by
        rw [List.find?_eq_none]
        intro other member same
        exact fresh (beq_iff_eq.mp same ▸ List.mem_map_of_mem member)
      have description : (directoryOf rest).find? (metadataName artifact.key) = none := by
        rw [find?_metadata, missing, Option.map_none]
      have binary : (Directory.mk ((metadataName artifact.key,
          .file (Text.utf8 artifact.metadata.render) false) ::
            (directoryOf rest).entries)).find? (binaryName artifact.key) = none := by
        rw [Directory.find?, List.lookup_cons, beq_false_of_ne binaryName_ne_metadataName]
        have other := find?_binary rest artifact.key
        rwa [missing, Option.map_none] at other
      have first := clearEntries_head binary artifact.binary count
        (.inr (extension?_binaryName artifact.key))
      have second := clearEntries_head description (Text.utf8 artifact.metadata.render) count
        (.inl (extension?_metadataName artifact.key))
      rw [extension?_binaryName, if_neg (by decide)] at first
      rw [extension?_metadataName, if_pos rfl] at second
      refine (first.trans second).trans ((ih distinctRest (count + 1)).trans ?_)
      rw [List.length_cons, Nat.add_right_comm, Nat.add_assoc]

/-- A store with the files of the artifacts of a map, at a path that can be listed. -/
structure Stores (store : ArtifactStore) (map : ArtifactMap) : Prop where
  path : store.path ≠ ""
  directory : store.directory = directoryOf map.held
  storable : ∀ artifact ∈ map.held, artifact.Storable

namespace Stores

variable {store : ArtifactStore} {map : ArtifactMap}

theorem plain (stores : store.Stores map) : store.directory.IsPlain := by
  rw [stores.directory]
  exact directoryOf_plain map.held

theorem holds_binary (stores : store.Stores map) (key : ArtifactKey) :
    store.directory.holds (binaryName key) = (map.find? key).isSome := by
  rw [Directory.holds, stores.directory, find?_binary, Option.isSome_map]
  rfl

theorem holds_metadata (stores : store.Stores map) (key : ArtifactKey) :
    store.directory.holds (metadataName key) = (map.find? key).isSome := by
  rw [Directory.holds, stores.directory, find?_metadata, Option.isSome_map]
  rfl

theorem contains (stores : store.Stores map) (key : ArtifactKey) :
    store.contains key = (map.find? key).isSome := by
  rw [ArtifactStore.contains, stores.holds_metadata, stores.holds_binary, Bool.and_self]

/-- The description of a held artifact is read under its key. -/
theorem readText (stores : store.Stores map) {artifact : Artifact}
    (found : map.find? artifact.key = some artifact) :
    store.directory.readText (metadataName artifact.key) = .ok artifact.metadata.render := by
  apply readText_utf8
  rw [stores.directory, find?_metadata]
  exact congrArg (Option.map _) found

/-- A held artifact is read whole. -/
theorem readEntry (stores : store.Stores map) {artifact : Artifact}
    (found : map.find? artifact.key = some artifact) :
    ArtifactStore.readEntry store.directory artifact.key = .ok artifact := by
  have storable := stores.storable artifact (ArtifactMap.find?_eq_some.mp found).1
  have binary : store.directory.find? (binaryName artifact.key) =
      some (.file artifact.binary false) := by
    rw [stores.directory, find?_binary]
    exact congrArg (Option.map _) found
  exact readEntry_storable storable (stores.readText found) binary

theorem load (stores : store.Stores map) (key : ArtifactKey) :
    store.load key = (.ok (map.find? key), store) := by
  rw [ArtifactStore.load, stores.holds_metadata]
  cases found : map.find? key with
  | none => rfl
  | some artifact =>
      obtain ⟨member, rfl⟩ := ArtifactMap.find?_eq_some.mp found
      rw [stores.readEntry found]
      rfl

theorem save (stores : store.Stores map) {artifact : Artifact} (storable : artifact.Storable) :
    (store.save artifact).1 = .ok () ∧ (store.save artifact).2.Stores (map.save artifact) := by
  rw [save_plain stores.plain]
  refine ⟨rfl, stores.path, ?_, ?_⟩
  · rw [stores.directory, withFiles_files]
    rfl
  · intro other member
    rcases List.mem_append.mp member with kept | added
    · exact stores.storable other (List.mem_filter.mp kept).1
    · rwa [List.mem_singleton.mp added]

theorem remove (stores : store.Stores map) (key : ArtifactKey) :
    (store.remove key).1 = .ok (map.find? key).isSome ∧
      (store.remove key).2.Stores (map.remove key) := by
  rw [remove_plain stores.plain, stores.holds_metadata, stores.holds_binary, Bool.or_self]
  refine ⟨rfl, stores.path, ?_, ?_⟩
  · rw [stores.directory, erase_files]
    rfl
  · exact fun other member => stores.storable other (List.mem_filter.mp member).1

theorem clear (stores : store.Stores map) :
    store.clear.1 = .ok map.held.length ∧ store.clear.2.Stores .empty := by
  have listable : (store.path == "") = false := beq_false_of_ne stores.path
  rw [ArtifactStore.clear, listable, if_neg Bool.false_ne_true, stores.directory,
    clearEntries_files map.distinct, Nat.zero_add]
  exact ⟨rfl, stores.path, rfl, fun artifact member => absurd member List.not_mem_nil⟩

/-- The files of one kind are one file for each artifact. -/
theorem entriesWith (stores : store.Stores map) {extension : String} {file : Artifact → String × Entry}
    (own : ∀ artifact, (files artifact).filter (fun entry =>
      Path.extension? entry.1 == some extension) = [file artifact]) :
    store.entriesWith extension = .ok (map.held.map file) := by
  have listable : (store.path == "") = false := beq_false_of_ne stores.path
  rw [ArtifactStore.entriesWith, listable, if_neg Bool.false_ne_true, stores.directory, directoryOf,
    List.filter_flatMap, List.map_eq_flatMap]
  simp only [own]

theorem list (stores : store.Stores map) :
    ∃ listed, store.list = .ok listed ∧ listed.Perm (map.held.map Artifact.metadata) ∧
      listed.Pairwise fun older newer => older.createdAt.notAfter newer.createdAt := by
  have entries : store.entriesWith "json" = .ok (map.held.map fun artifact =>
      (metadataName artifact.key, .file (Text.utf8 artifact.metadata.render) false)) := by
    refine stores.entriesWith fun artifact => ?_
    simp [files, extension?_binaryName, extension?_metadataName]
  have readAll (read : String × Entry → Option ArtifactMetadata)
      (readable : ∀ artifact ∈ map.held, read (metadataName artifact.key,
        .file (Text.utf8 artifact.metadata.render) false) = some artifact.metadata) :
      (map.held.map fun artifact => (metadataName artifact.key,
        Entry.file (Text.utf8 artifact.metadata.render) false)).filterMap read =
        map.held.map Artifact.metadata := by
    rw [List.filterMap_map, ← List.filterMap_eq_map]
    exact List.filterMap_congr readable
  refine ⟨_, ?_, List.mergeSort_perm _ fun first second =>
    first.createdAt.notAfter second.createdAt, ?_⟩
  · simp only [ArtifactStore.list, entries, bind, Except.bind]
    rw [readAll]
    intro artifact member
    rw [stores.readText (ArtifactMap.find?_eq_some.mpr ⟨member, rfl⟩)]
    simp only [(stores.storable artifact member).readable]
    rfl
  · refine List.pairwise_mergeSort ?_ ?_ _
    · intro first second third early late
      rw [Instant.notAfter_iff] at early late ⊢
      omega
    · intro first second
      rw [Bool.or_eq_true, Instant.notAfter_iff, Instant.notAfter_iff]
      omega

theorem sizeBytes (stores : store.Stores map) :
    store.sizeBytes = .ok (Number.total (map.held.map fun artifact => artifact.binary.length)) := by
  have entries : store.entriesWith "bin" = .ok (map.held.map fun artifact =>
      (binaryName artifact.key, .file artifact.binary false)) := by
    refine stores.entriesWith fun artifact => ?_
    simp [files, extension?_binaryName, extension?_metadataName]
  simp only [ArtifactStore.sizeBytes, entries, bind, Except.bind, List.map_map]
  rfl

end Stores

end ArtifactStore

/-- Whether the artifact of a call, if it saves one, can be given back. -/
def StoreCommand.Storable : StoreCommand → Prop
  | save artifact => artifact.Storable
  | _ => True

namespace ArtifactStore

variable {store : ArtifactStore} {map : ArtifactMap}

/-- A call answers as the map does and keeps the store beside it. -/
theorem Stores.step (stores : store.Stores map) {command : StoreCommand}
    (storable : command.Storable) :
    map.Answers command (store.step command).1 ∧ (store.step command).2.Stores (map.step command) := by
  cases command with
  | save artifact =>
      obtain ⟨saved, next⟩ := stores.save storable
      refine ⟨?_, next⟩
      change map.Answers _ (.saved (store.save artifact).1)
      rw [saved]
      exact .save artifact
  | load key =>
      rw [ArtifactStore.step, stores.load]
      exact ⟨.load key, stores⟩
  | contains key =>
      rw [ArtifactStore.step, stores.contains]
      exact ⟨.contains key, stores⟩
  | remove key =>
      obtain ⟨removed, next⟩ := stores.remove key
      refine ⟨?_, next⟩
      change map.Answers _ (.removed (store.remove key).1)
      rw [removed]
      exact .remove key
  | clear =>
      obtain ⟨cleared, next⟩ := stores.clear
      refine ⟨?_, next⟩
      change map.Answers _ (.cleared store.clear.1)
      rw [cleared]
      exact .clear
  | list =>
      obtain ⟨listed, answer, same, ordered⟩ := stores.list
      rw [ArtifactStore.step, answer]
      exact ⟨.list same ordered, stores⟩
  | sizeBytes =>
      rw [ArtifactStore.step, stores.sizeBytes]
      exact ⟨.sizeBytes, stores⟩

/-- A run keeps the store beside the map. -/
theorem Stores.run (stores : store.Stores map) {commands : List StoreCommand}
    (storable : ∀ command ∈ commands, command.Storable) :
    (store.run commands).Stores (map.run commands) := by
  induction commands generalizing store map with
  | nil => exact stores
  | cons command rest ih =>
      have next := (stores.step (storable command List.mem_cons_self)).2
      exact ih next fun later member => storable later (List.mem_cons_of_mem _ member)

/-- What a store answers after a history of calls. -/
structure Serves (store : ArtifactStore) (history : List StoreCommand) : Prop where
  /-- A call answers as the map of the history does. -/
  answers : ∀ command : StoreCommand, command.Storable →
    (ArtifactMap.empty.run history).Answers command (store.step command).1
  /-- A key gives the artifact that was saved last under it. -/
  found : ∀ key artifact, LastSaved history key artifact →
    (store.load key).1 = .ok (some artifact)
  missing : ∀ key, (∀ artifact, ¬LastSaved history key artifact) → (store.load key).1 = .ok none
  /-- A call that does not replace the artifact of a key leaves what the key gives. -/
  keeps : ∀ command : StoreCommand, command.Storable → ∀ key, ¬command.Replaces key →
    ((store.step command).2.load key).1 = (store.load key).1

/-- A store whose directory starts empty is a finite map from keys to artifacts. -/
theorem run_serves {path : String} (listable : path ≠ "") {commands : List StoreCommand}
    (storable : ∀ command ∈ commands, command.Storable) :
    Serves ((ArtifactStore.mk path .empty).run commands) commands := by
  have fresh : (ArtifactStore.mk path .empty).Stores .empty :=
    ⟨listable, rfl, fun artifact member => absurd member List.not_mem_nil⟩
  have stores := fresh.run storable
  refine ⟨fun command own => (stores.step own).1, ?_, ?_, ?_⟩
  · intro key artifact last
    rw [stores.load, (ArtifactMap.find?_run commands).mpr last]
  · intro key never
    rw [stores.load]
    cases found : (ArtifactMap.empty.run commands).find? key with
    | none => rfl
    | some artifact => exact absurd ((ArtifactMap.find?_run commands).mp found) (never artifact)
  · intro command own key other
    rw [(stores.step own).2.load, stores.load, ArtifactMap.find?_step other]

/-- An artifact with a nonempty binary replaces one with an empty binary under its key, and an
artifact under another key is removed. -/
theorem run_serves_empty : ∃ first second third : Artifact,
    first.binary = [] ∧ third.binary ≠ [] ∧ third.key = first.key ∧ second.key ≠ first.key ∧
      "cache" ≠ "" ∧
        let history := [.save first, .save second, .save third, .remove second.key, .list]
        let store := (ArtifactStore.mk "cache" .empty).run history
        (∀ command ∈ history, command.Storable) ∧ Serves store history ∧
          (store.load first.key).1 = .ok (some third) ∧ (store.load second.key).1 = .ok none := by
  let first : Artifact := ⟨⟨List.replicate 32 7, rfl⟩, ["f"], [], 80, "mock", ⟨0, 0⟩⟩
  let second : Artifact := ⟨⟨List.replicate 32 8, rfl⟩, ["g"], [2], 80, "mock", ⟨0, 0⟩⟩
  let third : Artifact := ⟨first.key, ["f", "h"], [1], 80, "mock", ⟨0, 0⟩⟩
  refine ⟨first, second, third, rfl, by decide, rfl, by decide, by decide, ?_⟩
  intro history store
  have storable : ∀ command ∈ history, command.Storable := by
    simp only [history, List.forall_mem_cons, StoreCommand.Storable, List.not_mem_nil,
      false_implies, implies_true, and_true]
    exact ⟨Artifact.storable (by decide) ⟨Instant.inRange_zero, by decide⟩,
      Artifact.storable (by decide) ⟨Instant.inRange_zero, by decide⟩,
      Artifact.storable (by decide) ⟨Instant.inRange_zero, by decide⟩⟩
  have serves : Serves store history := run_serves (by decide) storable
  refine ⟨storable, serves, serves.found _ _ ?_, serves.missing _ ?_⟩
  · exact (ArtifactMap.find?_run history).mp (by decide +kernel)
  · intro artifact last
    have gone : (ArtifactMap.empty.run history).find? second.key = none := by decide +kernel
    cases gone.symm.trans ((ArtifactMap.find?_run history).mpr last)

end ArtifactStore

end DeviceKernels
