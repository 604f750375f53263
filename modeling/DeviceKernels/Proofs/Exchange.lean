import Mathlib.Data.List.Basic

namespace DeviceKernels.Exchange

variable {Item : Type} {items : List Item} {index : Nat} {item : Item}

/-- An exchange counts the new item in place of the old one. -/
theorem countP_set (here : items[index]? = some item) (next : Item) (test : Item → Bool) :
    (items.set index next).countP test + (test item).toNat =
      items.countP test + (test next).toNat := by
  obtain ⟨inside, same⟩ := List.getElem?_eq_some_iff.mp here
  have counted : (test item).toNat ≤ items.countP test := by
    cases passed : test item with
    | false => exact Nat.zero_le _
    | true => exact List.countP_pos_iff.mpr ⟨item, List.mem_of_getElem? here, passed⟩
  have weight (passed : Bool) : (if passed = true then 1 else 0) = passed.toNat := by
    cases passed <;> rfl
  rw [List.countP_set inside, same, weight, weight]
  omega

/-- An item may be exchanged for itself. -/
theorem set_same (here : items[index]? = some item) : items.set index item = items := by
  obtain ⟨inside, rfl⟩ := List.getElem?_eq_some_iff.mp here
  exact List.set_getElem_self inside

/-- The new item is there. -/
theorem mem_set_next (here : items[index]? = some item) (next : Item) :
    next ∈ items.set index next :=
  List.mem_set (List.getElem?_eq_some_iff.mp here).1 next

/-- Every item but the old one stays. -/
theorem mem_set_other (here : items[index]? = some item) (next : Item) {other : Item}
    (member : other ∈ items) (different : other ≠ item) : other ∈ items.set index next := by
  obtain ⟨place, there⟩ := List.mem_iff_getElem?.mp member
  have apart : index ≠ place := by
    rintro rfl
    exact different (Option.some.inj (there.symm.trans here))
  refine List.mem_iff_getElem?.mpr ⟨place, ?_⟩
  rw [List.getElem?_set_ne apart, there]

/-- Two items at different places that pass a test are counted twice. -/
theorem two_le_countP (test : Item → Bool) {first second : Nat} (before : first < second)
    {other : Item} (one : items[first]? = some item) (two : items[second]? = some other)
    (passed : test item) (alsoPassed : test other) : 2 ≤ items.countP test := by
  have early : item ∈ items.take second := by
    refine List.mem_iff_getElem?.mpr ⟨first, ?_⟩
    rw [List.getElem?_take_of_lt before, one]
  have late : other ∈ items.drop second := by
    refine List.mem_iff_getElem?.mpr ⟨0, ?_⟩
    rw [List.getElem?_drop, Nat.add_zero, two]
  have front := List.countP_pos_iff.mpr ⟨item, early, passed⟩
  have back := List.countP_pos_iff.mpr ⟨other, late, alsoPassed⟩
  rw [← List.take_append_drop second items, List.countP_append]
  omega

end DeviceKernels.Exchange
