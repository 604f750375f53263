import DeviceKernels.Artifact.Store

/-
Directories of a file tree. In a complete tree every subdirectory that a directory names is there.
Making the directories of a path keeps a tree complete, and afterwards the path can be opened.
-/

namespace DeviceKernels

namespace FileTree

variable {tree left : FileTree} {names rest : List String} {directory : Directory}

/-- The working directory and the root are there, and so is every subdirectory of a directory. -/
structure Complete (tree : FileTree) : Prop where
  working : (tree.at? []).isSome
  root : (tree.at? [rootName]).isSome
  subdirectory : ∀ {names : List String} {directory : Directory} {name : String},
    tree.at? names = some directory → directory.find? name = some .directory →
      (tree.at? (names ++ [name])).isSome

/-- Whether a tree is complete can be read off its list of places. -/
theorem Complete.of_places (working : (tree.at? []).isSome) (root : (tree.at? [rootName]).isSome)
    (subdirectories : ∀ place ∈ tree.places, ∀ entry ∈ place.2.entries, entry.2 = .directory →
      (tree.at? (place.1 ++ [entry.1])).isSome) : tree.Complete where
  working
  root
  subdirectory := by
    intro names directory name held entry
    obtain ⟨before, after, places, -⟩ := List.lookup_eq_some_iff.mp held
    obtain ⟨first, last, entries, -⟩ := List.lookup_eq_some_iff.mp entry
    exact subdirectories (names, directory) (by simp [places]) (name, .directory)
      (by simp [entries]) rfl

theorem initial_complete : initial.Complete :=
  .of_places (by decide +kernel) (by decide +kernel) (by decide +kernel)

theorem at?_set_same (tree : FileTree) (names : List String) (directory : Directory) :
    (tree.set names directory).at? names = some directory := by
  have absent : (tree.places.filter fun entry => entry.1 != names).lookup names = none := by
    simp only [List.lookup_eq_none_iff, List.mem_filter, bne_iff_ne]
    intro entry held
    exact held.2.symm
  simp [at?, set, List.lookup_append, absent]

theorem at?_set_other (tree : FileTree) {other : List String} (directory : Directory)
    (different : other ≠ names) : (tree.set names directory).at? other = tree.at? other := by
  obtain ⟨places⟩ := tree
  have differs : (other == names) = false := beq_false_of_ne different
  simp only [at?, set, List.lookup_append, List.lookup_cons, differs, List.lookup_nil,
    Option.or_none]
  induction places with
  | nil => rfl
  | cons entry places ih =>
      obtain ⟨found, value⟩ := entry
      by_cases same : found = names
      · have apart : (other == found) = false := same ▸ differs
        rw [List.filter_cons_of_neg (by simp [same]), ih, List.lookup_cons, apart]
      · rw [List.filter_cons_of_pos (by simp [same]), List.lookup_cons, List.lookup_cons, ih]

/-- No place is lost. -/
theorem at?_set_isSome (tree : FileTree) {other : List String} (directory : Directory)
    (held : (tree.at? other).isSome) : ((tree.set names directory).at? other).isSome := by
  by_cases same : other = names
  · rw [same, at?_set_same]
    rfl
  · rwa [at?_set_other tree directory same]

/-- A directory may be replaced by one whose subdirectories are there. -/
theorem Complete.set (complete : tree.Complete) (subdirectories : ∀ name,
    directory.find? name = some .directory → (tree.at? (names ++ [name])).isSome) :
    (tree.set names directory).Complete where
  working := at?_set_isSome _ _ complete.working
  root := at?_set_isSome _ _ complete.root
  subdirectory := by
    intro place found name there entry
    apply at?_set_isSome
    by_cases same : place = names
    · subst same
      rw [at?_set_same] at there
      cases there
      exact subdirectories name entry
    · rw [at?_set_other tree directory same] at there
      exact complete.subdirectory there entry

/-- The tree with an empty subdirectory under a name that its directory did not have. -/
def addDirectory (tree : FileTree) (names : List String) (directory : Directory) (name : String) :
    FileTree :=
  (tree.set names (directory.put name .directory)).set (names ++ [name]) .empty

theorem addDirectory_outside (tree : FileTree) (directory : Directory) {name : String}
    {other : List String} (same : other ≠ names) (inner : other ≠ names ++ [name]) :
    (tree.addDirectory names directory name).at? other = tree.at? other := by
  rw [addDirectory, at?_set_other _ _ inner, at?_set_other _ _ same]

theorem addDirectory_outer (tree : FileTree) (names : List String) (directory : Directory)
    (name : String) : (tree.addDirectory names directory name).at? names =
      some (directory.put name .directory) := by
  rw [addDirectory, at?_set_other _ _ (by simp), at?_set_same]

theorem addDirectory_inner (tree : FileTree) (names : List String) (directory : Directory)
    (name : String) : (tree.addDirectory names directory name).at? (names ++ [name]) =
      some .empty := at?_set_same _ _ _

theorem Complete.addDirectory (complete : tree.Complete) (held : tree.at? names = some directory)
    (name : String) : (tree.addDirectory names directory name).Complete where
  working := at?_set_isSome _ _ (at?_set_isSome _ _ complete.working)
  root := at?_set_isSome _ _ (at?_set_isSome _ _ complete.root)
  subdirectory := by
    intro place found inner there entry
    have kept (old : (tree.at? (place ++ [inner])).isSome) :
        ((tree.addDirectory names directory name).at? (place ++ [inner])).isSome :=
      at?_set_isSome _ _ (at?_set_isSome _ _ old)
    by_cases new : place = names ++ [name]
    · rw [new, addDirectory_inner] at there
      cases there
      cases entry
    by_cases same : place = names
    · subst same
      rw [addDirectory_outer] at there
      cases there
      by_cases added : inner = name
      · rw [added, addDirectory_inner]
        rfl
      · rw [directory.findPutOther _ added] at entry
        exact kept (complete.subdirectory held entry)
    · rw [addDirectory_outside tree directory same new] at there
      exact kept (complete.subdirectory there entry)

/-- A directory that is made, and one that is only passed, leaves the rest of the way to be made. -/
theorem makeOnWay_cons {name : String} (made : tree.makeOnWay names (name :: rest) = .ok left) :
    ∃ directory, tree.at? names = some directory ∧
      (directory.find? name = some .directory ∧
          tree.makeOnWay (names ++ [name]) rest = .ok left ∨
        directory.find? name = none ∧
          (tree.addDirectory names directory name).makeOnWay (names ++ [name]) rest =
            .ok left) := by
  rw [makeOnWay] at made
  split at made
  · cases made
  · next directory held =>
    refine ⟨directory, held, ?_⟩
    split at made
    · cases made
    · next entry => exact .inl ⟨entry, made⟩
    · next entry => exact .inr ⟨entry, made⟩

theorem Complete.makeOnWay (complete : tree.Complete)
    (made : tree.makeOnWay names rest = .ok left) : left.Complete := by
  induction rest generalizing tree names with
  | nil =>
      cases made
      exact complete
  | cons name rest ih =>
      obtain ⟨directory, held, ⟨-, onward⟩ | ⟨-, onward⟩⟩ := makeOnWay_cons made
      · exact ih complete onward
      · exact ih (complete.addDirectory held name) onward

/-- Directories are made further down only: one that is no deeper keeps its subdirectories. -/
theorem makeOnWay_keeps (made : tree.makeOnWay names rest = .ok left) {place : List String}
    (above : place.length ≤ names.length) (held : tree.at? place = some directory) :
    ∃ kept, left.at? place = some kept ∧
      ∀ name, directory.find? name = some .directory → kept.find? name = some .directory := by
  induction rest generalizing tree names directory with
  | nil =>
      cases made
      exact ⟨directory, held, fun _ entry => entry⟩
  | cons name rest ih =>
      have further : place.length ≤ (names ++ [name]).length := by
        rw [List.length_append]
        omega
      obtain ⟨outer, there, ⟨-, onward⟩ | ⟨absent, onward⟩⟩ := makeOnWay_cons made
      · exact ih onward further held
      by_cases same : place = names
      · subst same
        cases there.symm.trans held
        obtain ⟨kept, left, subdirectories⟩ := ih onward further (addDirectory_outer ..)
        refine ⟨kept, left, fun inner entry => subdirectories inner ?_⟩
        rw [directory.findPutOther _ (by rintro rfl; cases absent.symm.trans entry)]
        exact entry
      · refine ih onward further ?_
        have inner : place ≠ names ++ [name] := by
          rintro rfl
          simp only [List.length_append, List.length_singleton] at above
          omega
        rw [addDirectory_outside tree outer same inner, held]

/-- The way that was made can be gone. -/
theorem Complete.makeOnWay_descends (complete : tree.Complete) (start : (tree.at? names).isSome)
    (made : tree.makeOnWay names rest = .ok left) :
    ∃ directory found, left.at? names = some directory ∧
      left.descend names directory rest = .ok found := by
  induction rest generalizing tree names with
  | nil =>
      cases made
      obtain ⟨directory, held⟩ := Option.isSome_iff_exists.mp start
      exact ⟨directory, directory, held, rfl⟩
  | cons name rest ih =>
      -- The directory at hand names the next one when the rest is made, and keeps naming it.
      have next (middle : FileTree) (sound : middle.Complete) (outer : Directory)
          (there : middle.at? names = some outer) (entry : outer.find? name = some .directory)
          (onward : middle.makeOnWay (names ++ [name]) rest = .ok left) :
          ∃ directory found, left.at? names = some directory ∧
            left.descend names directory (name :: rest) = .ok found := by
        obtain ⟨inner, found, held, reached⟩ :=
          ih sound (sound.subdirectory there entry) onward
        obtain ⟨kept, stays, subdirectories⟩ := makeOnWay_keeps onward (by simp) there
        refine ⟨kept, found, stays, ?_⟩
        simp only [descend, subdirectories name entry, held, reached]
      obtain ⟨directory, held, ⟨entry, onward⟩ | ⟨-, onward⟩⟩ := makeOnWay_cons made
      · exact next tree complete directory held entry onward
      · exact next _ (complete.addDirectory held name) _ (addDirectory_outer ..)
          (directory.findPutSame ..) onward

/-- A directory that was made can be opened. -/
theorem Complete.makeDirectories_opens (complete : tree.Complete) {path : String}
    (made : tree.makeDirectories path = .ok left) :
    ∃ directory, left.openPlace (place path) = .ok directory := by
  rw [makeDirectories] at made
  cases way : place path with
  | nil =>
      rw [way] at made
      cases made
      obtain ⟨directory, held⟩ := Option.isSome_iff_exists.mp complete.working
      exact ⟨directory, by simp only [openPlace, held, descend]⟩
  | cons first rest =>
      simp only [way] at made
      split at made
      case isTrue absolute =>
        obtain ⟨directory, found, held, reached⟩ := complete.makeOnWay_descends complete.root made
        exact ⟨found, by simp only [openPlace, absolute, if_true, held, reached]⟩
      case isFalse relative =>
        obtain ⟨directory, found, held, reached⟩ :=
          complete.makeOnWay_descends complete.working made
        exact ⟨found, by simp only [openPlace, if_neg relative, held, reached]⟩

theorem Complete.makeDirectories (complete : tree.Complete) {path : String}
    (made : tree.makeDirectories path = .ok left) : left.Complete := by
  rw [FileTree.makeDirectories] at made
  split at made
  · split at made <;> exact complete.makeOnWay made
  · cases made
    exact complete

/-- The way down ends at the directory of the place. -/
theorem descend_at? {found : Directory} (held : tree.at? names = some directory)
    (reached : tree.descend names directory rest = .ok found) :
    tree.at? (names ++ rest) = some found := by
  induction rest generalizing names directory with
  | nil =>
      cases reached
      rwa [List.append_nil]
  | cons name rest ih =>
      rw [descend] at reached
      repeat' split at reached
      any_goals cases reached
      next next there =>
        rw [List.append_cons]
        exact ih there reached

theorem openPlace_at? {found : Directory} (opened : tree.openPlace names = .ok found) :
    tree.at? names = some found := by
  obtain ⟨start, rest, directory, rfl, held, reached⟩ : ∃ start rest directory,
      start ++ rest = names ∧ tree.at? start = some directory ∧
        tree.descend start directory rest = .ok found := by
    rw [openPlace.eq_def] at opened
    cases names with
    | nil =>
        dsimp only at opened
        split at opened
        · cases opened
        next held => exact ⟨[], [], _, rfl, held, opened⟩
    | cons first rest =>
        by_cases absolute : first == rootName
        · simp only [absolute, if_true] at opened
          split at opened
          · cases opened
          next held =>
            exact ⟨[rootName], rest, _, by rw [beq_iff_eq.mp absolute]; rfl, held, opened⟩
        · simp only [if_neg absolute] at opened
          split at opened
          · cases opened
          next held => exact ⟨[], first :: rest, _, rfl, held, opened⟩
  exact descend_at? held reached

/-- Writing a file keeps a tree complete. -/
theorem Complete.write (complete : tree.Complete) {path : String} {contents : Bytes}
    {executable : Bool} (written : tree.write path contents executable = .ok left) :
    left.Complete := by
  simp only [FileTree.write, bind, Except.bind] at written
  repeat' split at written
  any_goals cases written
  next name _ _ middle made _ directory opened _ _ =>
    have sound := complete.makeDirectories made
    refine sound.set fun other entry => ?_
    by_cases same : other = name
    · rw [same, directory.findPutSame] at entry
      cases entry
    · rw [directory.findPutOther _ same] at entry
      exact sound.subdirectory (openPlace_at? opened) entry

end FileTree

/-- A store opens where its directory can be made. -/
theorem ArtifactStore.create_opens {tree left : FileTree} (complete : tree.Complete) {path : String}
    (made : tree.makeDirectories path = .ok left) :
    ∃ store, ArtifactStore.create tree path = .ok (store, left) := by
  obtain ⟨directory, opened⟩ := complete.makeDirectories_opens made
  exact ⟨⟨path, directory⟩, by simp only [create, made, opened, bind, Except.bind]⟩

end DeviceKernels
