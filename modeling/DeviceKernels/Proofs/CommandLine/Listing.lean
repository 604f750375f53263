import DeviceKernels.CommandLine.Command
import DeviceKernels.Proofs.Artifact.Loading
import DeviceKernels.Proofs.Artifact.Metadata
import DeviceKernels.Proofs.Outcome
import DeviceKernels.Proofs.Text.Cuts

/-
The listing of a store. Every readable description is listed, whether or not it is valid, and its
line shows the first twelve bytes of its key.
-/

namespace DeviceKernels

namespace ArtifactMetadata

variable {metadata : ArtifactMetadata}

/-- The part of the key that a line shows ends where a character ends. -/
def IsShowable (metadata : ArtifactMetadata) : Prop :=
  String.Pos.Raw.IsValid metadata.key ⟨min 12 (Text.utf8Length metadata.key)⟩

theorem row?_isSome_iff : metadata.row?.isSome ↔ metadata.IsShowable := by
  rw [IsShowable, ← Text.cutBytes?_isSome_iff, row?]
  cases Text.cutBytes? 12 metadata.key <;>
    simp only [Option.bind_eq_bind, Option.bind_none, Option.bind_some, Option.isSome_some]

/-- Every entry has a line exactly if every key can be shown. -/
theorem rows_complete_iff (entries : List ArtifactMetadata) :
    (rows entries).2 = true ↔ ∀ metadata ∈ entries, metadata.IsShowable := by
  induction entries with
  | nil => simp [rows]
  | cons metadata rest inductionHypothesis =>
      rw [List.forall_mem_cons, ← inductionHypothesis, ← row?_isSome_iff, rows]
      cases metadata.row? <;> simp

/-- Valid keys consist of digits. -/
theorem isShowable_of_validate (valid : metadata.validate = .ok ()) : metadata.IsShowable := by
  obtain ⟨digest, -⟩ := Outcome.refused_iff.1 valid
  rw [Bool.not_eq_true, Bool.not_eq_false', isDigest, Bool.and_eq_true, List.all_eq_true] at digest
  exact Text.isValid_of_single (fun digit member => Text.utf8Size_hexDigit (digest.2 digit member))
    12

end ArtifactMetadata

namespace ArtifactStore

variable {store : ArtifactStore} {tree left : FileTree} {path : String}
  {entries : List ArtifactMetadata} {metadata : ArtifactMetadata}

/-- A readable description under a name of its extension, whatever key the name has. -/
def Describes (store : ArtifactStore) (metadata : ArtifactMetadata) : Prop :=
  ∃ name text, Path.extension? name = some "json" ∧
    store.directory.readText name = .ok text ∧ ArtifactMetadata.parse text = .ok metadata

theorem create_path (created : create tree path = .ok (store, left)) : store.path = path := by
  obtain ⟨tree, -, created⟩ := Outcome.bound_iff.1 created
  obtain ⟨directory, -, created⟩ := Outcome.bound_iff.1 created
  cases created
  rfl

theorem entriesWith_ok {extension : String} {held : List (String × Entry)}
    (found : store.entriesWith extension = .ok held) (entry : String × Entry) :
    entry ∈ held ↔
      entry ∈ store.directory.entries ∧ Path.extension? entry.1 = some extension := by
  obtain ⟨-, found⟩ := Outcome.refused_iff.1 found
  cases found
  rw [List.mem_filter, beq_iff_eq]

/-- What can be read is there. -/
theorem mem_of_readText {directory : Directory} {name text : String}
    (read : directory.readText name = .ok text) :
    ∃ entry, (name, entry) ∈ directory.entries := by
  obtain ⟨contents, executable, found⟩ := readText_found read
  obtain ⟨before, after, entries, -⟩ := List.lookup_eq_some_iff.1 found
  exact ⟨_, entries ▸ List.mem_append_right before List.mem_cons_self⟩

theorem readable_iff {directory : Directory} {name : String} :
    (match directory.readText name with
      | .ok text => (ArtifactMetadata.parse text).toOption
      | .error _ => none) = some metadata ↔
      ∃ text, directory.readText name = .ok text ∧ ArtifactMetadata.parse text = .ok metadata := by
  cases directory.readText name with
  | error error => simp
  | ok text => simp [Outcome.toOption_some]

/-- The list of a store has the descriptions that are there and no other. -/
theorem mem_list_iff (listed : store.list = .ok entries) :
    metadata ∈ entries ↔ store.Describes metadata := by
  obtain ⟨held, found, listed⟩ := Outcome.bound_iff.1 listed
  cases listed
  simp only [List.mem_mergeSort, List.mem_filterMap, entriesWith_ok found]
  constructor
  · rintro ⟨⟨name, entry⟩, ⟨-, extension⟩, readable⟩
    obtain ⟨text, read, parsed⟩ := readable_iff.1 readable
    exact ⟨name, text, extension, read, parsed⟩
  · rintro ⟨name, text, extension, read, parsed⟩
    obtain ⟨entry, member⟩ := mem_of_readText read
    exact ⟨(name, entry), ⟨member, extension⟩, readable_iff.2 ⟨text, read, parsed⟩⟩

/-- Only the empty path cannot be listed. -/
theorem list_cases (store : ArtifactStore) :
    (store.path = "" ∧ ∃ error, store.list = .error error) ∨
      store.path ≠ "" ∧ ∃ entries, store.list = .ok entries := by
  by_cases empty : store.path = ""
  · exact .inl ⟨empty, .file .notFound, by simp [list, entriesWith, empty, bind, Except.bind]⟩
  · exact .inr ⟨empty, _, by simp [list, entriesWith, empty, bind, Except.bind]; rfl⟩

end ArtifactStore

namespace CommandContext

variable {context : CommandContext} {path : String}

/-- The context of a command once the log has been started, which may make a file. -/
def started (context : CommandContext) : CommandContext :=
  { context with
    files := ((LogConfig.ofEnvironment context.environment .compact).start
      context.files).toOption.getD context.files }

/-- The configuration can be used, and names the directory of a store. -/
def Caches (context : CommandContext) (path : String) : Prop :=
  ∃ config, Config.load context.environment context.files = .ok config ∧
    config.cachePath = some path

/-- A log that cannot be started does not change how a command ends. -/
theorem run_status (context : CommandContext) (arguments : List String) :
    (context.run arguments).status = (context.started.perform arguments).status := by
  unfold run started
  split <;> simp only [*, Except.toOption, Option.getD_some, Option.getD_none]

theorem perform_list (context : CommandContext) (options : List String) :
    context.perform ("cache" :: "list" :: options) =
      context.listEntries (options.contains "--json") := by
  have other : ("--json" == "list") = false := by decide
  simp only [perform, cacheCommand, Arguments.hasFlag, List.head?_cons, Option.getD_some,
    List.tail_cons, List.contains_cons, other, Bool.false_or]

/-- A listing fails where there is no store to list, and breaks off where a line is missing. -/
theorem listEntries_cases (caches : context.Caches path) (asJson : Bool) :
    ((path = "" ∨ ∃ error, ArtifactStore.create context.files path = .error error) ∧
        (context.listEntries asJson).status = .failure) ∨
      (path ≠ "" ∧ ∃ store files entries,
        ArtifactStore.create context.files path = .ok (store, files) ∧
          store.list = .ok entries ∧
          (context.listEntries asJson).status =
            if asJson || (ArtifactMetadata.rows entries).2 then .success else .crashed) := by
  obtain ⟨config, loads, cached⟩ := caches
  simp only [listEntries, withStore, withConfig, loads, openStore, cached]
  cases created : ArtifactStore.create context.files path with
  | error error =>
      exact .inl ⟨.inr ⟨error, rfl⟩, rfl⟩
  | ok opened =>
      obtain ⟨store, files⟩ := opened
      obtain ⟨empty, error, failed⟩ | ⟨nonempty, entries, listed⟩ := store.list_cases
      · refine .inl ⟨.inl (ArtifactStore.create_path created ▸ empty), ?_⟩
        simp only [Except.mapError, failed]
        rfl
      · refine .inr ⟨ArtifactStore.create_path created ▸ nonempty, store, files, entries, rfl,
          listed, ?_⟩
        simp only [Except.mapError, listed]
        cases asJson with
        | true => rfl
        | false =>
            -- An empty list has a line of its own and no rows that could be missing.
            cases entries with
            | nil => rfl
            | cons first rest => rfl

theorem listEntries_failure_iff (caches : context.Caches path) (asJson : Bool) :
    (context.listEntries asJson).status = .failure ↔
      path = "" ∨ ∃ error, ArtifactStore.create context.files path = .error error := by
  obtain ⟨missing, failed⟩ | ⟨nonempty, store, files, entries, created, -, ended⟩ :=
    listEntries_cases caches asJson
  · exact iff_of_true failed missing
  · rw [ended, created]
    constructor
    · intro failed
      split at failed <;> cases failed
    · rintro (empty | ⟨error, refused⟩)
      · exact absurd empty nonempty
      · cases refused

theorem listEntries_crashed_iff (caches : context.Caches path) (asJson : Bool) :
    (context.listEntries asJson).status = .crashed ↔
      asJson = false ∧ path ≠ "" ∧ ∃ store files,
        ArtifactStore.create context.files path = .ok (store, files) ∧
          ∃ metadata, store.Describes metadata ∧ ¬metadata.IsShowable := by
  obtain ⟨missing, failed⟩ | ⟨nonempty, store, files, entries, created, listed, ended⟩ :=
    listEntries_cases caches asJson
  · rw [failed]
    constructor
    · intro crashed
      cases crashed
    · rintro ⟨-, nonempty, store, files, created, -⟩
      obtain empty | ⟨error, refused⟩ := missing
      · exact absurd empty nonempty
      · cases refused.symm.trans created
  · have broken : (if asJson || (ArtifactMetadata.rows entries).2 then ExitStatus.success
        else .crashed) = .crashed ↔ asJson = false ∧ ¬(ArtifactMetadata.rows entries).2 = true := by
      cases asJson <;> cases (ArtifactMetadata.rows entries).2 <;> decide
    rw [ended, broken, ArtifactMetadata.rows_complete_iff]
    simp only [ArtifactStore.mem_list_iff listed, not_forall, exists_prop]
    constructor
    · rintro ⟨lines, metadata, described, hidden⟩
      exact ⟨lines, nonempty, store, files, created, metadata, described, hidden⟩
    · rintro ⟨lines, -, other, left, opened, metadata, described, hidden⟩
      cases created.symm.trans opened
      exact ⟨lines, metadata, described, hidden⟩

theorem listEntries_code (caches : context.Caches path) {asJson : Bool}
    (whole : (context.listEntries asJson).status ≠ .crashed) :
    (context.listEntries asJson).status.code = 0 ∨
      (context.listEntries asJson).status.code = 1 := by
  obtain ⟨-, failed⟩ | ⟨-, _, _, _, -, -, ended⟩ := listEntries_cases caches asJson
  · rw [failed]
    exact .inr rfl
  · rw [ended] at whole ⊢
    split at whole
    case isTrue complete =>
      rw [if_pos complete]
      exact .inl rfl
    case isFalse => exact absurd rfl whole

/-- Listing the store of a configuration fails exactly if there is no store to list. It breaks off
exactly if it prints lines and a readable description is there, valid or not, whose key has a
character across the end of the part that a line shows. Otherwise it ends with one of the first two
codes, and so it does where every description is valid. -/
theorem list_crashes_iff (context : CommandContext) (options : List String)
    (caches : context.started.Caches path) :
    let status := (context.run ("cache" :: "list" :: options)).status
    let opened := ArtifactStore.create context.started.files path
    (status = .failure ↔ path = "" ∨ ∃ error, opened = .error error) ∧
      (status = .crashed ↔
        "--json" ∉ options ∧ path ≠ "" ∧ ∃ store files, opened = .ok (store, files) ∧
          ∃ metadata, store.Describes metadata ∧ ¬metadata.IsShowable) ∧
      (status ≠ .crashed → status.code = 0 ∨ status.code = 1) ∧
      ((∀ store files metadata, opened = .ok (store, files) → store.Describes metadata →
        metadata.validate = .ok ()) → status.code = 0 ∨ status.code = 1) := by
  have same : (context.run ("cache" :: "list" :: options)).status =
      (context.started.listEntries (options.contains "--json")).status := by
    rw [run_status, perform_list]
  have crashes := listEntries_crashed_iff caches (options.contains "--json")
  rw [← Bool.not_eq_true, List.contains_iff_mem] at crashes
  simp only [same]
  refine ⟨listEntries_failure_iff caches _, crashes, listEntries_code caches, ?_⟩
  intro valid
  refine listEntries_code caches (mt crashes.1 ?_)
  rintro ⟨-, -, store, files, opened, metadata, described, hidden⟩
  exact hidden
    (ArtifactMetadata.isShowable_of_validate (valid store files metadata opened described))

/-- The directory of a store with one description. -/
def describedBy (metadata : ArtifactMetadata) : Directory :=
  ⟨[("a.json", .file (Text.utf8 metadata.render) false)]⟩

/-- A context whose store has one description. -/
def describing (metadata : ArtifactMetadata) : CommandContext where
  environment := .ofList [("FORGE_CACHE_DIR", "cache")]
  files := (FileTree.initial.set [] ⟨[("cache", .directory)]⟩).set ["cache"] (describedBy metadata)
  processors := 1
  now := ⟨0, 0⟩

theorem describing_caches (metadata : ArtifactMetadata) :
    (describing metadata).started.Caches "cache" :=
  ⟨_, rfl, rfl⟩

theorem describing_started (metadata : ArtifactMetadata) :
    (describing metadata).started.files = (describing metadata).files := by
  have settings : LogConfig.ofEnvironment (describing metadata).environment .compact =
      ⟨.compact, "info", none⟩ := rfl
  have passes : LogFilter.check "info" = .ok () := by decide +kernel
  simp only [started, settings, LogConfig.start, passes, Except.mapError, bind, Except.bind,
    Except.toOption, Option.getD_some]

theorem describing_opens (metadata : ArtifactMetadata) :
    ArtifactStore.create (describing metadata).started.files "cache" =
      .ok (⟨"cache", describedBy metadata⟩, (describing metadata).files) := by
  have place : FileTree.place "cache" = ["cache"] := by decide +kernel
  have root : ("cache" == FileTree.rootName) = false := by decide
  rw [describing_started]
  simp only [ArtifactStore.create, FileTree.makeDirectories, place, root, bind, Except.bind]
  rfl

/-- The one description is the one that the store is made for. -/
theorem describes_describedBy {metadata described : ArtifactMetadata} (inRange : metadata.InRange) :
    (⟨"cache", describedBy metadata⟩ : ArtifactStore).Describes described ↔
      described = metadata := by
  have found : (describedBy metadata).find? "a.json" =
      some (.file (Text.utf8 metadata.render) false) := rfl
  have read := ArtifactStore.readText_utf8 found
  constructor
  · rintro ⟨name, text, -, held, parsed⟩
    obtain ⟨entry, member⟩ := ArtifactStore.mem_of_readText held
    cases List.mem_singleton.1 member
    cases read.symm.trans held
    cases (ArtifactMetadata.parse_render inRange).symm.trans parsed
    rfl
  · rintro rfl
    exact ⟨"a.json", _, by decide +kernel, read, ArtifactMetadata.parse_render inRange⟩

/-- Listing a description that is not valid ends well if its key can be shown. -/
theorem list_crashes_iff_unchecked :
    let metadata : ArtifactMetadata := ⟨"notes", [], 80, "mock", ⟨0, 0⟩, "", 3⟩
    let status := ((describing metadata).run ["cache", "list"]).status
    (describing metadata).started.Caches "cache" ∧ metadata.validate ≠ .ok () ∧
      status ≠ .failure ∧ status ≠ .crashed ∧ (status.code = 0 ∨ status.code = 1) := by
  intro metadata status
  have caches := describing_caches metadata
  obtain ⟨failure, crashed, codes, -⟩ := list_crashes_iff (describing metadata) [] caches
  have whole : status ≠ .crashed := by
    refine mt crashed.1 ?_
    rintro ⟨-, -, store, files, opened, described, describes, hidden⟩
    cases (describing_opens metadata).symm.trans opened
    obtain rfl := (describes_describedBy ⟨Instant.inRange_zero, by decide⟩).1 describes
    exact hidden (Text.cutBytes?_isSome_iff.1 (by decide +kernel))
  refine ⟨caches, by decide +kernel, mt failure.1 ?_, whole, codes whole⟩
  rintro (empty | ⟨error, refused⟩)
  · exact absurd empty (by decide)
  · cases (describing_opens metadata).symm.trans refused

/-- The twelfth byte of this key is the first of two of a character, and listing breaks off. -/
theorem split_key_crashes :
    let metadata : ArtifactMetadata :=
      ⟨"abcdefghijké", ["k"], 80, "mock", ⟨1704164645, 0⟩, "", 3⟩
    (describing metadata).started.Caches "cache" ∧
      ((describing metadata).run ["cache", "list"]).status.code = 101 := by
  intro metadata
  have caches := describing_caches metadata
  have inRange : metadata.InRange := ⟨⟨by decide, .inl (by decide)⟩, by decide⟩
  have hidden : ¬metadata.IsShowable := by
    rw [ArtifactMetadata.IsShowable, ← Text.cutBytes?_isSome_iff]
    decide +kernel
  have crashed : ((describing metadata).run ["cache", "list"]).status = .crashed := by
    rw [run_status, perform_list, listEntries_crashed_iff caches]
    exact ⟨rfl, by decide, _, _, describing_opens metadata, metadata,
      (describes_describedBy inRange).2 rfl, hidden⟩
  exact ⟨caches, by rw [crashed]; rfl⟩

end CommandContext

end DeviceKernels
