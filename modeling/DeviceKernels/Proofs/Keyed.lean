import Mathlib.Data.List.Nodup

/-
Lists whose items have different keys. Such a list behaves as a finite map: an item is found by
its key, and a filter on the key takes exactly that item away.
-/

namespace DeviceKernels.Keyed

variable {Item Key : Type} [BEq Key] [LawfulBEq Key] (key : Item → Key) {items : List Item}

/-- An item that is found is there, and has the key. -/
theorem find?_some {sought : Key} {item : Item}
    (found : items.find? (fun other => key other == sought) = some item) :
    item ∈ items ∧ key item = sought :=
  ⟨List.mem_of_find?_eq_some found, by simpa using List.find?_some found⟩

/-- Every item is found by its key. -/
theorem find?_mem {item : Item} (member : item ∈ items) (distinct : (items.map key).Nodup) :
    items.find? (fun other => key other == key item) = some item := by
  cases found : items.find? (fun other => key other == key item) with
  | none => simpa using List.find?_eq_none.mp found item member
  | some other =>
      obtain ⟨otherMember, sameKey⟩ := find?_some key found
      rw [List.inj_on_of_nodup_map distinct otherMember member sameKey]

/-- A key that is not sought can be filtered out before. -/
theorem find?_filter_other {sought gone : Key} (items : List Item) (different : sought ≠ gone) :
    (items.filter fun other => key other != gone).find? (fun other => key other == sought) =
      items.find? (fun other => key other == sought) := by
  rw [List.find?_filter]
  congr 1
  funext other
  by_cases here : key other = sought <;> simp [here, different]

/-- A key that no item has filters nothing out. -/
theorem filter_absent {gone : Key} (absent : gone ∉ items.map key) :
    items.filter (fun other => key other != gone) = items := by
  apply List.filter_eq_self.mpr
  intro other member
  simp only [bne_iff_ne, ne_eq]
  rintro rfl
  exact absent (List.mem_map_of_mem member)

/-- A filter on the key of an item takes exactly that item away. -/
theorem filter_perm {item : Item} (member : item ∈ items) (distinct : (items.map key).Nodup) :
    items.Perm (item :: items.filter fun other => key other != key item) := by
  induction items with
  | nil => cases member
  | cons first rest ih =>
      obtain ⟨fresh, distinctRest⟩ := List.nodup_cons.mp distinct
      rcases List.mem_cons.mp member with rfl | inRest
      · rw [List.filter_cons_of_neg (by simp), filter_absent key fresh]
      · have other : key first ≠ key item := by
          intro same
          exact fresh (same ▸ List.mem_map_of_mem inRest)
        rw [List.filter_cons_of_pos (by simpa using other)]
        exact ((ih inRest distinctRest).cons first).trans (.swap item first _)

omit [BEq Key] [LawfulBEq Key] in
/-- A filter keeps the keys different. -/
theorem distinct_filter (test : Item → Bool) (distinct : (items.map key).Nodup) :
    ((items.filter test).map key).Nodup :=
  (List.filter_sublist.map key).nodup distinct

end DeviceKernels.Keyed
