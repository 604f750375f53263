import DeviceKernels.Artifact.Store
import DeviceKernels.Proofs.Keyed
import DeviceKernels.Proofs.Text.Encoding

/-
The files of a store. The names of the files of two artifacts never meet, a save in a directory of
regular files publishes exactly the two files of its artifact, and a removal, a clearing or a
loading only takes files away.
-/

namespace DeviceKernels

/-- The ending after the last dot of a longer name is its extension. -/
theorem Path.extension?_append {stem ending : String} (stemSome : stem ≠ "")
    (endingSome : ending ≠ "") (plain : '.' ∉ ending.toList) :
    Path.extension? (stem ++ "." ++ ending) = some ending := by
  have reversed : (stem ++ "." ++ ending).toList.reverse =
      ending.toList.reverse ++ '.' :: stem.toList.reverse := by simp
  have taken : (ending.toList.reverse ++ '.' :: stem.toList.reverse).takeWhile (· != '.') =
      ending.toList.reverse := by
    rw [List.takeWhile_append_of_pos, List.takeWhile_cons_of_neg (by simp), List.append_nil]
    intro character member
    simp only [bne_iff_ne, ne_eq]
    rintro rfl
    exact plain (List.mem_reverse.mp member)
  have long : (stem ++ "." ++ ending) ≠ ".." := by
    intro same
    have lengths := congrArg (fun text => text.toList.length) same
    have stemLong := List.length_pos_iff.mpr (mt String.toList_eq_nil_iff.mp stemSome)
    have endingLong := List.length_pos_iff.mpr (mt String.toList_eq_nil_iff.mp endingSome)
    simp at lengths
    omega
  simp only [Path.extension?, reversed, taken, List.drop_left]
  cases shape : stem.toList.reverse with
  | nil => exact absurd (String.toList_eq_nil_iff.mp (List.reverse_eq_nil_iff.mp shape)) stemSome
  | cons last rest =>
      simp only [beq_iff_eq, if_neg long, List.reverse_reverse, String.ofList_toList]

namespace ArtifactStore

variable {key other : ArtifactKey}

/-- A key has digits. -/
theorem toHex_ne_empty (key : ArtifactKey) : key.toHex ≠ "" := by
  intro empty
  have read := ArtifactKey.ofHexToHex key
  rw [empty] at read
  cases read

theorem binaryName_inj : binaryName key = binaryName other ↔ key = other := by
  rw [binaryName, binaryName, String.append_left_inj]
  exact ⟨ArtifactKey.toHexInjective, congrArg _⟩

theorem metadataName_inj : metadataName key = metadataName other ↔ key = other := by
  rw [metadataName, metadataName, String.append_left_inj]
  exact ⟨ArtifactKey.toHexInjective, congrArg _⟩

theorem extension?_binaryName (key : ArtifactKey) :
    Path.extension? (binaryName key) = some "bin" := by
  have split : binaryName key = key.toHex ++ "." ++ "bin" := by
    rw [String.append_assoc]
    rfl
  rw [split, Path.extension?_append (toHex_ne_empty key) (by decide) (by decide)]

theorem extension?_metadataName (key : ArtifactKey) :
    Path.extension? (metadataName key) = some "json" := by
  have split : metadataName key = key.toHex ++ "." ++ "json" := by
    rw [String.append_assoc]
    rfl
  rw [split, Path.extension?_append (toHex_ne_empty key) (by decide) (by decide)]

theorem extension?_temporaryName : Path.extension? temporaryName = none := by decide

theorem binaryName_ne_metadataName : binaryName key ≠ metadataName other := by
  intro same
  have extensions := extension?_binaryName key
  rw [same, extension?_metadataName] at extensions
  exact absurd extensions (by decide)

theorem binaryName_ne_temporaryName : binaryName key ≠ temporaryName := by
  intro same
  have extensions := extension?_binaryName key
  rw [same, extension?_temporaryName] at extensions
  cases extensions

theorem metadataName_ne_temporaryName : metadataName key ≠ temporaryName := by
  intro same
  have extensions := extension?_metadataName key
  rw [same, extension?_temporaryName] at extensions
  cases extensions

end ArtifactStore

namespace Directory

variable {directory before after : Directory} {name : String} {entry : Entry}

/-- A name that is not found is the name of no entry. -/
theorem find?_none : directory.find? name = none ↔ name ∉ directory.entries.map Prod.fst := by
  rw [find?, List.lookup_eq_none_iff, List.mem_map]
  constructor
  · rintro others ⟨held, member, rfl⟩
    simpa using others held member
  · intro absent held member
    exact bne_iff_ne.mpr fun same => absent ⟨held, member, same.symm⟩

/-- To erase a name that is not there changes nothing. -/
theorem erase_absent (absent : directory.find? name = none) : directory.erase name = directory :=
  congrArg Directory.mk (Keyed.filter_absent Prod.fst (find?_none.mp absent))

/-- What is put under a name is erased with it. -/
theorem erase_put (directory : Directory) (name : String) (entry : Entry) :
    (directory.put name entry).erase name = directory.erase name := by
  have idle := erase_absent (findEraseSame directory name)
  rw [erase, put, List.filter_append, List.filter_cons_of_neg (by simp), List.filter_nil,
    List.append_nil]
  exact idle

theorem erase_comm (directory : Directory) (first second : String) :
    (directory.erase first).erase second = (directory.erase second).erase first :=
  congrArg Directory.mk (List.filter_comm _ _ _)

/-- Whatever is found after was there before. -/
def Shrinks (before after : Directory) : Prop :=
  ∀ name entry, after.find? name = some entry → before.find? name = some entry

theorem Shrinks.refl (directory : Directory) : Shrinks directory directory :=
  fun _ _ found => found

theorem Shrinks.trans {first second third : Directory} (one : Shrinks first second)
    (two : Shrinks second third) : Shrinks first third :=
  fun name entry found => one name entry (two name entry found)

/-- To erase a name takes files away only. -/
theorem shrinks_erase (directory : Directory) (name : String) :
    Shrinks directory (directory.erase name) := by
  intro other entry found
  by_cases same : other = name
  · rw [same, findEraseSame] at found
    cases found
  · rwa [findEraseOther directory same] at found

/-- To remove a file takes files away only. -/
theorem shrinks_remove (removed : directory.remove name = .ok after) :
    Shrinks directory after := by
  rw [remove] at removed
  split at removed
  · cases removed
  · cases removed
  · cases removed
    exact shrinks_erase directory name

/-- A file can be published under a name that no directory has. -/
theorem publish_free (free : directory.find? name ≠ some .directory) (contents : Bytes) :
    directory.publish name contents = .ok (directory.put name (.file contents false)) := by
  rw [publish]
  split
  case h_1 found => exact absurd found free
  case h_2 => rfl

/-- To publish a file puts it under its name. -/
theorem publish_ok {contents : Bytes} (published : directory.publish name contents = .ok after) :
    after = directory.put name (.file contents false) := by
  rw [publish] at published
  split at published
  · cases published
  · cases published
    rfl

/-- A directory of regular files, none of them on its way to its name. -/
structure IsPlain (directory : Directory) : Prop where
  noTemporary : directory.find? ArtifactStore.temporaryName = none
  regular : ∀ name, directory.find? name ≠ some .directory

theorem IsPlain.empty : IsPlain .empty := ⟨rfl, fun _ found => by cases found⟩

theorem IsPlain.shrinks (plain : before.IsPlain) (less : Shrinks before after) :
    after.IsPlain where
  noTemporary := by
    cases found : after.find? ArtifactStore.temporaryName with
    | none => rfl
    | some entry =>
        have before := less _ _ found
        rw [plain.noTemporary] at before
        cases before
  regular name found := plain.regular name (less name .directory found)

/-- A regular file of another name keeps a directory plain. -/
theorem IsPlain.put (plain : directory.IsPlain) (lasting : name ≠ ArtifactStore.temporaryName)
    (contents : Bytes) : (directory.put name (.file contents false)).IsPlain where
  noTemporary := by
    rw [findPutOther directory _ lasting.symm]
    exact plain.noTemporary
  regular other found := by
    by_cases same : other = name
    · rw [same, findPutSame] at found
      cases found
    · rw [findPutOther directory _ same] at found
      exact plain.regular other found

end Directory

namespace ArtifactStore

open Directory

variable {store : ArtifactStore} {directory : Directory} {name : String} {key : ArtifactKey}
  {artifact : Artifact}

/-- To rename the temporary file gives the directory without it the named file. -/
theorem apply_renameTemporary (directory : Directory) (name : String) (contents : Bytes) :
    SaveStep.apply (directory.put temporaryName (.file contents false))
      (.rename temporaryName name) = (directory.erase temporaryName).publish name contents := by
  simp only [SaveStep.apply, Directory.read, findPutSame, erase_put, bind, Except.bind]

/-- A file that is written under the temporary name and renamed is there under its name, unless a
directory has one of the two names. What had the temporary name is gone, and nothing else has
changed. -/
theorem takeSteps_publish (temporary : directory.find? temporaryName ≠ some .directory)
    (free : directory.find? name ≠ some .directory) (contents : Bytes) (rest : List SaveStep) :
    takeSteps directory (.write temporaryName contents :: .rename temporaryName name :: rest) =
      takeSteps ((directory.erase temporaryName).put name (.file contents false)) rest := by
  have stillFree : (directory.erase temporaryName).find? name ≠ some .directory :=
    fun found => free (shrinks_erase directory temporaryName name .directory found)
  rw [takeSteps, SaveStep.apply, publish_free temporary]
  dsimp only
  rw [takeSteps, apply_renameTemporary, publish_free stillFree]

/-- A run of steps is a run of the first ones and, if it succeeds, of the others. -/
theorem takeSteps_append (directory : Directory) (first rest : List SaveStep) :
    takeSteps directory (first ++ rest) =
      match takeSteps directory first with
      | (.ok (), left) => takeSteps left rest
      | (.error error, left) => (.error error, left) := by
  induction first generalizing directory with
  | nil => rfl
  | cons step later ih =>
      rw [List.cons_append, takeSteps, takeSteps]
      cases step.apply directory with
      | ok left => exact ih left
      | error error => rfl

/-- Whatever stands in the way, a file that is written and renamed is there under its name, or the
name is as it was. -/
theorem takeSteps_named (directory : Directory) (lasting : name ≠ temporaryName) (contents : Bytes) :
    (takeSteps directory [.write temporaryName contents, .rename temporaryName name]).2.find? name ∈
      [directory.find? name, some (.file contents false)] := by
  have erased (left : Directory) : (left.erase temporaryName).find? name = left.find? name :=
    findEraseOther left lasting
  simp only [takeSteps, SaveStep.apply, List.mem_cons, List.not_mem_nil, or_false]
  cases written : directory.publish temporaryName contents with
  | error error => exact .inl (erased directory)
  | ok left =>
      have kept : (directory.put temporaryName (.file contents false)).find? name =
        directory.find? name := findPutOther directory _ lasting
      -- The renaming finds the file that was just written, whatever had its name before.
      rw [publish_ok written]
      simp only [Directory.read, findPutSame, bind, Except.bind]
      cases renamed : ((directory.put temporaryName (.file contents false)).erase
          temporaryName).publish name contents with
      | error error => exact .inl ((erased _).trans kept)
      | ok last =>
          rw [publish_ok renamed]
          exact .inr (findPutSame _ _ _)

/-- The directory with the two files of an artifact. -/
def withFiles (directory : Directory) (artifact : Artifact) : Directory :=
  (directory.put (binaryName artifact.key) (.file artifact.binary false)).put
    (metadataName artifact.key) (.file (Text.utf8 artifact.metadata.render) false)

/-- A save where no directory has the name of a file succeeds. It adds the two files, and nothing is
left under the temporary name. -/
theorem save_free (temporary : store.directory.find? temporaryName ≠ some .directory)
    (binary : store.directory.find? (binaryName artifact.key) ≠ some .directory)
    (description : store.directory.find? (metadataName artifact.key) ≠ some .directory) :
    store.save artifact = (.ok (),
      { store with directory := withFiles (store.directory.erase temporaryName) artifact }) := by
  have less := shrinks_erase store.directory temporaryName
  have fresh : ((store.directory.erase temporaryName).put (binaryName artifact.key)
      (.file artifact.binary false)).find? temporaryName = none := by
    rw [findPutOther _ _ binaryName_ne_temporaryName.symm, findEraseSame]
  have stillFree : ((store.directory.erase temporaryName).put (binaryName artifact.key)
      (.file artifact.binary false)).find? (metadataName artifact.key) ≠ some .directory := by
    rw [findPutOther _ _ binaryName_ne_metadataName.symm]
    exact fun found => description (less _ _ found)
  rw [save, saveSteps, takeSteps_publish temporary binary,
    takeSteps_publish (by simp [fresh]) stillFree, erase_absent fresh, takeSteps]
  rfl

/-- A save in a plain directory succeeds and adds the two files. -/
theorem save_plain (plain : store.directory.IsPlain) (artifact : Artifact) :
    store.save artifact =
      (.ok (), { store with directory := withFiles store.directory artifact }) := by
  rw [save_free (plain.regular _) (plain.regular _) (plain.regular _),
    erase_absent plain.noTemporary]

theorem withFiles_plain (plain : directory.IsPlain) (artifact : Artifact) :
    (withFiles directory artifact).IsPlain :=
  (plain.put binaryName_ne_temporaryName _).put metadataName_ne_temporaryName _

/-- The binary of an artifact is there under its key, and every other binary is as before. -/
theorem find?_withFiles_binary (directory : Directory) (artifact : Artifact) (key : ArtifactKey) :
    (withFiles directory artifact).find? (binaryName key) =
      if key = artifact.key then some (.file artifact.binary false)
      else directory.find? (binaryName key) := by
  rw [withFiles, findPutOther _ _ binaryName_ne_metadataName]
  split
  case isTrue same => rw [same, findPutSame]
  case isFalse other => rw [findPutOther _ _ (mt binaryName_inj.mp other)]

/-- A name that no directory has is discarded without fail. -/
theorem discard_regular (regular : directory.find? name ≠ some .directory) :
    discard directory name = (.ok (directory.holds name), directory.erase name) := by
  rw [discard, Directory.remove, holds]
  cases found : directory.find? name with
  | none => rw [erase_absent found]; rfl
  | some entry =>
      cases entry with
      | directory => exact absurd found regular
      | file contents executable => rfl

/-- Where no directory has the name of a file of the key both files are removed, and an entry is
reported if one of them was there. -/
theorem remove_regular
    (description : store.directory.find? (metadataName key) ≠ some .directory)
    (binary : store.directory.find? (binaryName key) ≠ some .directory) :
    store.remove key =
      (.ok (store.directory.holds (metadataName key) || store.directory.holds (binaryName key)),
        { store with
          directory := (store.directory.erase (metadataName key)).erase (binaryName key) }) := by
  have same : (store.directory.erase (metadataName key)).find? (binaryName key) =
      store.directory.find? (binaryName key) := findEraseOther _ binaryName_ne_metadataName
  have kept : (store.directory.erase (metadataName key)).holds (binaryName key) =
      store.directory.holds (binaryName key) := by rw [holds, same, holds]
  rw [remove, discard_regular description]
  dsimp only
  rw [discard_regular (same ▸ binary), kept]

/-- In a plain directory both files of a key are removed. -/
theorem remove_plain (plain : store.directory.IsPlain) (key : ArtifactKey) :
    store.remove key =
      (.ok (store.directory.holds (metadataName key) || store.directory.holds (binaryName key)),
        { store with
          directory := (store.directory.erase (metadataName key)).erase (binaryName key) }) :=
  remove_regular (plain.regular _) (plain.regular _)

/-- A discarding leaves every other name alone. -/
theorem find?_discard_other {other : String} (different : other ≠ name) :
    (discard directory name).2.find? other = directory.find? other := by
  rw [discard]
  split
  case h_1 after removed =>
    rw [Directory.remove] at removed
    split at removed
    · cases removed
    · cases removed
    · cases removed
      exact findEraseOther directory different
  all_goals rfl

/-- A removal leaves the files of other keys alone. -/
theorem find?_remove_other {other : String} (description : other ≠ metadataName key)
    (binary : other ≠ binaryName key) :
    (store.remove key).2.directory.find? other = store.directory.find? other := by
  have first : (discard store.directory (metadataName key)).2.find? other =
      store.directory.find? other := find?_discard_other description
  rw [remove]
  split
  case h_1 failed =>
    rw [failed] at first
    exact first
  case h_2 left done =>
    rw [done] at first
    have second : (discard left (binaryName key)).2.find? other = left.find? other :=
      find?_discard_other binary
    split
    case h_1 failed =>
      rw [failed] at second
      exact second.trans first
    case h_2 finished =>
      rw [finished] at second
      exact second.trans first

theorem shrinks_discard (directory : Directory) (name : String) :
    Shrinks directory (discard directory name).2 := by
  rw [discard]
  split
  case h_1 removed => exact shrinks_remove removed
  all_goals exact .refl directory

/-- A removal takes files away only. -/
theorem shrinks_remove (store : ArtifactStore) (key : ArtifactKey) :
    Shrinks store.directory (store.remove key).2.directory := by
  have first := shrinks_discard store.directory (metadataName key)
  rw [remove]
  split
  case h_1 failed =>
    rw [failed] at first
    exact first
  case h_2 left done =>
    rw [done] at first
    have second := shrinks_discard left (binaryName key)
    split
    case h_1 failed =>
      rw [failed] at second
      exact first.trans second
    case h_2 finished =>
      rw [finished] at second
      exact first.trans second

/-- A loading takes files away only. -/
theorem shrinks_load (store : ArtifactStore) (key : ArtifactKey) :
    Shrinks store.directory (store.load key).2.directory := by
  have removal := shrinks_remove store key
  rw [load]
  split
  · exact .refl _
  · split
    · exact .refl _
    · split
      · split
        case h_1 removed =>
          rw [removed] at removal
          exact removal
        case h_2 failed =>
          rw [failed] at removal
          exact removal
      · exact .refl _

/-- A loading leaves the files of other keys alone. -/
theorem find?_load_other {other : String} (description : other ≠ metadataName key)
    (binary : other ≠ binaryName key) :
    (store.load key).2.directory.find? other = store.directory.find? other := by
  have removal : (store.remove key).2.directory.find? other = store.directory.find? other :=
    find?_remove_other description binary
  rw [load]
  split
  · rfl
  · split
    · rfl
    · split
      · split
        case h_1 removed =>
          rw [removed] at removal
          exact removal
        case h_2 failed =>
          rw [failed] at removal
          exact removal
      · rfl

theorem shrinks_clearEntries (directory : Directory) (count : Nat)
    (pending : List (String × Entry)) :
    Shrinks directory (clearEntries directory count pending).2 := by
  induction pending generalizing directory count with
  | nil => exact .refl directory
  | cons entry rest ih =>
      obtain ⟨name, entry⟩ := entry
      rw [clearEntries]
      split
      · split
        case h_1 left removed => exact (Directory.shrinks_remove removed).trans (ih left _)
        case h_2 => exact .refl directory
      · exact ih directory count

/-- A clearing takes files away only. -/
theorem shrinks_clear (store : ArtifactStore) :
    Shrinks store.directory store.clear.2.directory := by
  rw [clear]
  split
  · exact .refl _
  · exact shrinks_clearEntries store.directory 0 store.directory.entries

end ArtifactStore

end DeviceKernels
