import DeviceKernels.Proofs.Artifact.Loading
import DeviceKernels.Proofs.Artifact.Metadata

/-
A save that stops halfway. An entry is two files that get their names one after the other, so a
process that ends between the two leaves the new binary beside the old description.
-/

namespace DeviceKernels

open Directory

namespace ArtifactStore

variable {store : ArtifactStore} {directory : Directory} {name : String} {artifact old : Artifact}
  {steps : Nat}

/-- The store that the first steps of a save leave behind. -/
def interrupt (store : ArtifactStore) (artifact : Artifact) (steps : Nat) : ArtifactStore :=
  { store with directory := (takeSteps store.directory ((saveSteps artifact).take steps)).2 }

/-- The names that a step may change. -/
def stepNames : SaveStep → List String
  | .write name _ => [name]
  | .rename source target => [source, target]

theorem publish_other {after : Directory} {contents : Bytes} {other : String}
    (published : directory.publish name contents = .ok after) (different : other ≠ name) :
    after.find? other = directory.find? other := by
  rw [publish_ok published]
  exact findPutOther directory _ different

/-- A step leaves every other name alone. -/
theorem apply_other {step : SaveStep} {after : Directory} {other : String}
    (applied : step.apply directory = .ok after) (untouched : other ∉ stepNames step) :
    after.find? other = directory.find? other := by
  cases step with
  | write name contents => exact publish_other applied (by simpa [stepNames] using untouched)
  | rename source target =>
      simp only [stepNames, List.mem_cons, List.not_mem_nil, or_false, not_or] at untouched
      cases read : directory.read source with
      | error error => simp [SaveStep.apply, read, bind, Except.bind] at applied
      | ok contents =>
          have published : (directory.erase source).publish target contents = .ok after := by
            simpa [SaveStep.apply, read, bind, Except.bind] using applied
          rw [publish_other published untouched.2, findEraseOther directory untouched.1]

/-- A run of steps leaves every other name alone, whether it fails or not. -/
theorem takeSteps_other {pending : List SaveStep} {other : String} (lasting : other ≠ temporaryName)
    (untouched : ∀ step ∈ pending, other ∉ stepNames step) :
    (takeSteps directory pending).2.find? other = directory.find? other := by
  induction pending generalizing directory with
  | nil => rfl
  | cons step rest ih =>
      unfold takeSteps
      cases applied : step.apply directory with
      | error error => exact findEraseOther directory lasting
      | ok after =>
          have own := apply_other applied (untouched step List.mem_cons_self)
          have rested : ∀ next ∈ rest, other ∉ stepNames next :=
            fun next member => untouched next (List.mem_cons_of_mem _ member)
          exact (ih rested).trans own

/-- A save touches its two files and the temporary one. -/
theorem interrupt_other {other : String} (lasting : other ≠ temporaryName)
    (binary : other ≠ binaryName artifact.key) (description : other ≠ metadataName artifact.key) :
    (store.interrupt artifact steps).directory.find? other = store.directory.find? other := by
  apply takeSteps_other lasting
  intro step member
  have own := List.mem_of_mem_take member
  simp only [saveSteps, List.mem_cons, List.not_mem_nil, or_false] at own
  rcases own with rfl | rfl | rfl | rfl <;> simp [stepNames, lasting, binary, description]

/-- A directory under the name of a file stops the save there and nothing has changed. -/
theorem takeSteps_blocked (fresh : directory.find? temporaryName = none)
    (blocked : directory.find? name = some .directory) (contents : Bytes) (rest : List SaveStep) :
    takeSteps directory (.write temporaryName contents :: .rename temporaryName name :: rest) =
      (.error .isADirectory, directory) := by
  have refused : directory.publish name contents = .error .isADirectory := by rw [publish, blocked]
  rw [takeSteps, SaveStep.apply, publish_free (by simp [fresh])]
  dsimp only
  rw [takeSteps, apply_renameTemporary, erase_absent fresh, refused]
  dsimp only
  rw [erase_put, erase_absent fresh]

/-- Before the binary has its name the directory is as it was, apart from the temporary file. -/
theorem interrupt_early (early : steps < 2) (lasting : name ≠ temporaryName) :
    (store.interrupt artifact steps).directory.find? name = store.directory.find? name := by
  apply takeSteps_other lasting
  intro step member
  have written : step = .write temporaryName artifact.binary := by
    match steps, early, member with
    | 1, _, member => simpa [saveSteps] using member
  simpa [written, stepNames] using lasting

/-- Before the description has its name the binary alone is new. -/
theorem interrupt_between (fresh : store.directory.find? temporaryName = none)
    (free : store.directory.find? (binaryName artifact.key) ≠ some .directory) (begun : 2 ≤ steps)
    (unfinished : steps < 4) (lasting : name ≠ temporaryName) :
    (store.interrupt artifact steps).directory.find? name =
      (store.directory.put (binaryName artifact.key) (.file artifact.binary false)).find? name := by
  obtain ⟨more, rfl⟩ := Nat.exists_eq_add_of_le' begun
  have taken : (saveSteps artifact).take (more + 2) =
      .write temporaryName artifact.binary :: .rename temporaryName (binaryName artifact.key) ::
        [SaveStep.write temporaryName (Text.utf8 artifact.metadata.render),
          .rename temporaryName (metadataName artifact.key)].take more := rfl
  rw [interrupt, taken, takeSteps_publish (by simp [fresh]) free, erase_absent fresh]
  apply takeSteps_other lasting
  intro step member
  have written : step = .write temporaryName (Text.utf8 artifact.metadata.render) := by
    match more, unfinished, member with
    | 1, _, member => simpa using member
  simpa [written, stepNames] using lasting

/-- All the steps are the save. -/
theorem interrupt_finished (finished : 4 ≤ steps) :
    store.interrupt artifact steps = (store.save artifact).2 := by
  rw [interrupt, List.take_of_length_le finished, save]

/-- The two files of an artifact are loaded as the artifact. -/
theorem load_withFiles (storable : artifact.Storable) :
    ((ArtifactStore.mk store.path (withFiles directory artifact)).load artifact.key).1 =
      .ok (some artifact) := by
  have description := readText_utf8 (findPutSame (directory.put (binaryName artifact.key)
    (.file artifact.binary false)) (metadataName artifact.key)
      (.file (Text.utf8 artifact.metadata.render) false))
  have binary := find?_withFiles_binary directory artifact artifact.key
  rw [if_pos rfl] at binary
  exact load_some.mpr (readEntry_storable storable description binary)

/-- What loads answer once a save has stopped after some of its steps. -/
structure Interrupted (store : ArtifactStore) (artifact : Artifact) (steps : Nat) : Prop where
  others : ∀ key, key ≠ artifact.key →
    ((store.interrupt artifact steps).load key).1 = (store.load key).1
  /-- Where nothing was stored, there is nothing or the new artifact. -/
  absent : (store.load artifact.key).1 = .ok none →
    ((store.interrupt artifact steps).load artifact.key).1 = .ok none ∨
      ((store.interrupt artifact steps).load artifact.key).1 = .ok (some artifact)
  early : ∀ old, (store.load artifact.key).1 = .ok (some old) → steps < 2 →
    ((store.interrupt artifact steps).load artifact.key).1 = .ok (some old)
  /-- Between the two renamings the binary is the new one and the description the old one. If the
  digests agree, a load takes the two for one artifact. -/
  between : ∀ old, (store.load artifact.key).1 = .ok (some old) → 2 ≤ steps → steps < 4 →
    old.digest = artifact.digest →
      ((store.interrupt artifact steps).load artifact.key).1 =
        .ok (some { old with binary := artifact.binary })
  /-- If the digests differ, the first load fails and removes both files, and the next one finds
  neither the old artifact nor the new one. -/
  torn : ∀ old, (store.load artifact.key).1 = .ok (some old) → 2 ≤ steps → steps < 4 →
    old.digest ≠ artifact.digest →
      ((store.interrupt artifact steps).load artifact.key).1 =
          .error (.hashMismatch artifact.key.toHex old.digest artifact.digest) ∧
        (((store.interrupt artifact steps).load artifact.key).2.load artifact.key).1 = .ok none
  finished : ∀ old, (store.load artifact.key).1 = .ok (some old) → 4 ≤ steps →
    ((store.interrupt artifact steps).load artifact.key).1 = .ok (some artifact)

/-- The entries of other keys are loaded as before. -/
theorem interrupt_load_other {key : ArtifactKey} (different : key ≠ artifact.key) :
    ((store.interrupt artifact steps).load key).1 = (store.load key).1 := by
  apply load_congr
  · exact interrupt_other metadataName_ne_temporaryName binaryName_ne_metadataName.symm
      (mt metadataName_inj.mp different)
  · exact interrupt_other binaryName_ne_temporaryName (mt binaryName_inj.mp different)
      binaryName_ne_metadataName

/-- A save leaves what other keys give. -/
theorem save_load_other {key : ArtifactKey} (different : key ≠ artifact.key) :
    ((store.save artifact).2.load key).1 = (store.load key).1 := by
  rw [← interrupt_finished (le_refl 4)]
  exact interrupt_load_other different

/-- Before the binary has its name every key is loaded as before. -/
theorem interrupt_load_early (early : steps < 2) (key : ArtifactKey) :
    ((store.interrupt artifact steps).load key).1 = (store.load key).1 :=
  load_congr (interrupt_early early metadataName_ne_temporaryName)
    (interrupt_early early binaryName_ne_temporaryName)

/-- Where nothing was stored, there is nothing or the new artifact. -/
theorem interrupt_load_absent (fresh : store.directory.find? temporaryName = none)
    (storable : artifact.Storable) (before : (store.load artifact.key).1 = .ok none) :
    ((store.interrupt artifact steps).load artifact.key).1 = .ok none ∨
      ((store.interrupt artifact steps).load artifact.key).1 = .ok (some artifact) := by
  have missing := load_none.mp before
  by_cases early : steps < 2
  · exact .inl ((interrupt_load_early early _).trans before)
  by_cases blocked : store.directory.find? (binaryName artifact.key) = some .directory
  · left
    obtain ⟨more, rfl⟩ := Nat.exists_eq_add_of_le' (Nat.le_of_not_lt early)
    have same : store.interrupt artifact (more + 2) = store := by
      have stopped := takeSteps_blocked fresh blocked artifact.binary
        ([SaveStep.write temporaryName (Text.utf8 artifact.metadata.render),
          .rename temporaryName (metadataName artifact.key)].take more)
      unfold interrupt
      exact congrArg (fun result => { store with directory := result.2 }) stopped
    rw [same, before]
  by_cases finished : 4 ≤ steps
  · right
    rw [interrupt_finished finished, save_free (by simp [fresh]) blocked (by simp [missing])]
    exact load_withFiles storable
  · left
    rw [load_none, interrupt_between fresh blocked (by omega) (by omega)
      metadataName_ne_temporaryName, findPutOther _ _ binaryName_ne_metadataName.symm, missing]

/-- Between the two renamings the entry is the old description and the new binary. -/
theorem interrupt_readEntry (fresh : store.directory.find? temporaryName = none)
    (before : (store.load artifact.key).1 = .ok (some old)) (begun : 2 ≤ steps)
    (unfinished : steps < 4) :
    readEntry (store.interrupt artifact steps).directory artifact.key =
      if artifact.digest = old.digest then .ok { old with binary := artifact.binary }
      else .error (.hashMismatch artifact.key.toHex old.digest artifact.digest) := by
  obtain ⟨metadata, executable, described, binary, made⟩ := readEntry_parts (load_some.mp before)
  have free : store.directory.find? (binaryName artifact.key) ≠ some .directory := by simp [binary]
  have stillDescribed : Described (store.interrupt artifact steps).directory artifact.key metadata := by
    obtain ⟨text, read, parsed⟩ := described.parsed
    refine ⟨⟨text, ?_, parsed⟩, described.named⟩
    rw [← read]
    simp only [Directory.readText, Directory.read,
      interrupt_between fresh free begun unfinished metadataName_ne_temporaryName,
      findPutOther _ _ binaryName_ne_metadataName.symm]
  have replaced := interrupt_between fresh free begun unfinished
    (binaryName_ne_temporaryName : binaryName artifact.key ≠ temporaryName)
  rw [findPutSame] at replaced
  rw [readEntry_described stillDescribed replaced, Artifact.ofParts_replaced made, described.named]
  rfl

/-- Between the two renamings a description and a binary that do not match are removed. -/
theorem interrupt_load_torn (fresh : store.directory.find? temporaryName = none)
    (before : (store.load artifact.key).1 = .ok (some old)) (begun : 2 ≤ steps)
    (unfinished : steps < 4) (differ : old.digest ≠ artifact.digest) :
    (store.interrupt artifact steps).load artifact.key =
      (.error (.hashMismatch artifact.key.toHex old.digest artifact.digest), { store with
        directory := ((store.interrupt artifact steps).directory.erase
          (metadataName artifact.key)).erase (binaryName artifact.key) }) := by
  obtain ⟨_, _, -, held, -⟩ := readEntry_parts (load_some.mp before)
  have free : store.directory.find? (binaryName artifact.key) ≠ some .directory := by simp [held]
  have description := interrupt_between fresh free begun unfinished
    (metadataName_ne_temporaryName : metadataName artifact.key ≠ temporaryName)
  have binary := interrupt_between fresh free begun unfinished
    (binaryName_ne_temporaryName : binaryName artifact.key ≠ temporaryName)
  rw [findPutOther _ _ binaryName_ne_metadataName.symm] at description
  rw [findPutSame] at binary
  have mismatch := interrupt_readEntry fresh before begun unfinished
  rw [if_neg differ.symm] at mismatch
  obtain ⟨contents, executable, file⟩ := find?_of_readEntry (load_some.mp before)
  have described := description.trans file
  apply load_corrupt _ _ _ mismatch rfl
  · rw [Directory.holds, described]
    rfl
  · simp [described]
  · simp [binary]

/-- A save that stops after any of its steps leaves the other entries, and under its own key either
the old entry or the new one, unless it stops between the two renamings and the binaries differ. -/
theorem interrupt_answers (fresh : store.directory.find? temporaryName = none)
    (exported : artifact.kernelNames ≠ []) (inRange : artifact.metadata.InRange) (steps : Nat) :
    store.Interrupted artifact steps where
  others key different := interrupt_load_other different
  absent before := interrupt_load_absent fresh (Artifact.storable exported inRange) before
  early old before early := (interrupt_load_early early artifact.key).trans before
  between old before begun unfinished same := by
    have replaced := interrupt_readEntry fresh before begun unfinished
    rw [if_pos same.symm] at replaced
    exact load_some.mpr replaced
  torn old before begun unfinished differ := by
    rw [interrupt_load_torn fresh before begun unfinished differ]
    exact ⟨rfl, load_removed (store.interrupt artifact steps) artifact.key⟩
  finished old before finished := by
    obtain ⟨metadata, executable, -, binary, -⟩ := readEntry_parts (load_some.mp before)
    obtain ⟨contents, readable, description⟩ := find?_of_readEntry (load_some.mp before)
    rw [interrupt_finished finished,
      save_free (by simp [fresh]) (by simp [binary]) (by simp [description])]
    exact load_withFiles (Artifact.storable exported inRange)

/-- A store to which one artifact was saved loads it, and has no temporary file. -/
theorem save_first (path : String) (storable : old.Storable) :
    (((ArtifactStore.mk path .empty).save old).2.load old.key).1 = .ok (some old) ∧
      ((ArtifactStore.mk path .empty).save old).2.directory.find? temporaryName = none := by
  have plain : (ArtifactStore.mk path .empty).directory.IsPlain := .empty
  rw [save_plain plain]
  exact ⟨load_withFiles storable, (withFiles_plain plain old).noTemporary⟩

/-- Two artifacts of one key with different binaries. -/
def edition (byte : UInt8) : Artifact :=
  ⟨⟨List.replicate 32 7, rfl⟩, ["f"], [byte], 80, "mock", ⟨0, 0⟩⟩

theorem edition_inRange (byte : UInt8) : (edition byte).metadata.InRange where
  createdAt := Instant.inRange_zero
  size := (by decide : 1 < UInt64.size)

theorem edition_storable (byte : UInt8) : (edition byte).Storable :=
  Artifact.storable (by simp [edition]) (edition_inRange byte)

/-- The second edition is saved where the first one is stored. -/
theorem interrupt_answers_edition : ∃ store : ArtifactStore,
    store.directory.find? temporaryName = none ∧ (edition 2).kernelNames ≠ [] ∧
      (edition 2).metadata.InRange ∧ (store.load (edition 2).key).1 = .ok (some (edition 1)) ∧
        ∀ steps, store.Interrupted (edition 2) steps := by
  obtain ⟨before, fresh⟩ := save_first "cache" (edition_storable 1)
  have exported : (edition 2).kernelNames ≠ [] := by decide
  exact ⟨_, fresh, exported, edition_inRange 2, before,
    interrupt_answers fresh exported (edition_inRange 2)⟩

/-- After its second step the save of another binary under the key of a stored artifact has lost
both: the first load fails, and the next one finds nothing. -/
theorem interrupted_replacement_lost : ∃ (store : ArtifactStore) (old new : Artifact),
    new.kernelNames ≠ [] ∧ (store.load new.key).1 = .ok (some old) ∧
      ((store.interrupt new 2).load new.key).1 =
        .error (.hashMismatch new.key.toHex old.digest new.digest) ∧
      (((store.interrupt new 2).load new.key).2.load new.key).1 = .ok none := by
  obtain ⟨saved, fresh⟩ := save_first "cache" (edition_storable 1)
  have before : ((((ArtifactStore.mk "cache" .empty).save (edition 1)).2).load (edition 2).key).1 =
    .ok (some (edition 1)) := saved
  have differ : (edition 1).digest ≠ (edition 2).digest := by decide +kernel
  refine ⟨_, edition 1, edition 2, by decide, before, ?_⟩
  have torn := interrupt_load_torn fresh before (le_refl 2) (by decide) differ
  refine ⟨congrArg Prod.fst torn, ?_⟩
  rw [torn]
  exact load_removed _ (edition 2).key

end ArtifactStore

end DeviceKernels
