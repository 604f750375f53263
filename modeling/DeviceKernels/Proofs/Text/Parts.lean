import DeviceKernels.Text.Numeral
import Mathlib

/-
Joined parts. Parts can be told from the joined text if the separator is in none of them, and a
text can be told from what follows a mark if the mark does not occur in it.
-/

namespace DeviceKernels.Text

section Lists

variable {Item : Type} {head : Item} {mark first second more rest rest' : List Item}

/-- Nothing stands before a mark that begins where another one does. -/
theorem eq_nil_of_mark (once : head ∉ mark) (unmarked : ¬ head :: mark <:+: more)
    (joined : head :: mark ++ rest = more ++ (head :: mark ++ rest')) : more = [] := by
  cases more with
  | nil => rfl
  | cons next tail =>
      obtain ⟨rfl, tails⟩ := List.cons_eq_cons.1 joined
      exfalso
      -- The second mark begins after the first one, or inside it.
      obtain ⟨between, whole, -⟩ | ⟨inner, whole, overlap⟩ := List.append_eq_append_iff.1 tails
      · exact unmarked ⟨[], between, by rw [whole, List.nil_append, List.cons_append]⟩
      · cases inner with
        | nil => exact unmarked ⟨[], [], by rw [whole]; simp⟩
        | cons next inner =>
            obtain ⟨rfl, -⟩ := List.cons_eq_cons.1 overlap
            exact once (whole ▸ List.mem_append_right tail List.mem_cons_self)

/-- A mark whose first item does not come again in it ends a list in which it does not occur. -/
theorem mark_cancel (once : head ∉ mark) (unmarked : ¬ head :: mark <:+: first)
    (unmarked' : ¬ head :: mark <:+: second)
    (joined : first ++ (head :: mark ++ rest) = second ++ (head :: mark ++ rest')) :
    first = second ∧ rest = rest' := by
  have same : first = second := by
    obtain ⟨more, rfl, tails⟩ | ⟨more, rfl, tails⟩ := List.append_eq_append_iff.1 joined
    · have none := eq_nil_of_mark once
        (fun occurs => unmarked' (occurs.trans (List.suffix_append first more).isInfix)) tails
      rw [none, List.append_nil]
    · have none := eq_nil_of_mark once
        (fun occurs => unmarked (occurs.trans (List.suffix_append second more).isInfix)) tails
      rw [none, List.append_nil]
  subst same
  exact ⟨rfl, List.append_cancel_left (List.append_cancel_left joined)⟩

/-- A list without the separator that occurs in joined lists occurs in one of them. -/
theorem infix_of_infix_intercalate {separator : Item} {word : List Item}
    (free : separator ∉ word) (nonempty : word ≠ []) :
    ∀ {parts : List (List Item)}, word <:+: [separator].intercalate parts →
      ∃ part ∈ parts, word <:+: part
  | [], occurs => absurd (List.infix_nil.1 occurs) nonempty
  | [part], occurs => ⟨part, List.mem_cons_self, by simpa using occurs⟩
  | part :: next :: parts, occurs => by
      rw [List.intercalate_cons_cons, List.append_assoc, List.infix_append_iff] at occurs
      obtain inPart | inRest | ⟨before, after, rfl, ends, starts⟩ := occurs
      · exact ⟨part, List.mem_cons_self, inPart⟩
      · rw [List.singleton_append, List.infix_cons_iff] at inRest
        obtain starts | later := inRest
        · cases word with
          | nil => exact absurd rfl nonempty
          | cons item word =>
              obtain ⟨rfl, -⟩ := List.cons_prefix_cons.1 starts
              exact absurd List.mem_cons_self free
        · obtain ⟨found, member, inside⟩ := infix_of_infix_intercalate free nonempty later
          exact ⟨found, List.mem_cons_of_mem part member, inside⟩
      · cases after with
        | nil => exact ⟨part, List.mem_cons_self, by rw [List.append_nil]; exact ends.isInfix⟩
        | cons item after =>
            obtain ⟨rfl, -⟩ := List.cons_prefix_cons.1 starts
            exact absurd (List.mem_append_right before List.mem_cons_self) free

end Lists

variable {mark : Char} {separator : String} {parts parts' : List String}

theorem toList_join (single : separator.toList = [mark]) :
    (join separator parts).toList = [mark].intercalate (parts.map String.toList) := by
  rw [join, String.toList_intercalate, single]

/-- Parts that a separator keeps apart: no part has the separator, and there is not one empty part
only, which joins to the same text as no part. -/
structure SeparatedBy (mark : Char) (parts : List String) : Prop where
  free : ∀ part ∈ parts, mark ∉ part.toList
  filled : parts ≠ [""]

instance (mark : Char) (parts : List String) : Decidable (SeparatedBy mark parts) :=
  decidable_of_iff ((∀ part ∈ parts, mark ∉ part.toList) ∧ parts ≠ [""])
    ⟨fun both => ⟨both.1, both.2⟩, fun separated => ⟨separated.free, separated.filled⟩⟩

/-- Only no part joins to the empty text. -/
theorem SeparatedBy.eq_nil (separated : SeparatedBy mark parts)
    (single : separator.toList = [mark]) (empty : (join separator parts).toList = []) :
    parts = [] := by
  rw [toList_join single] at empty
  match parts, separated.filled with
  | [], _ => rfl
  | [part], filled =>
      rw [List.map_singleton, List.intercalate_singleton] at empty
      exact absurd (congrArg ([·]) (String.toList_eq_nil_iff.1 empty)) filled
  | part :: next :: parts, _ =>
      simp [List.map_cons, List.intercalate_cons_cons] at empty

/-- The parts can be told from the joined text. -/
theorem SeparatedBy.join_cancel (separated : SeparatedBy mark parts)
    (separated' : SeparatedBy mark parts') (single : separator.toList = [mark])
    (joined : join separator parts = join separator parts') : parts = parts' := by
  have split : ∀ {parts : List String}, SeparatedBy mark parts → parts ≠ [] →
      (join separator parts).toList.splitOn mark = parts.map String.toList := by
    intro parts separated nonempty
    rw [toList_join single, List.splitOn_intercalate mark
      (List.forall_mem_map.2 separated.free) (List.map_eq_nil_iff.not.2 nonempty)]
  by_cases empty : parts = []
  · subst empty
    exact (separated'.eq_nil single (by rw [← joined]; rfl)).symm
  · by_cases empty' : parts' = []
    · subst empty'
      exact separated.eq_nil single (by rw [joined]; rfl)
    · have same := split separated empty
      rw [joined, split separated' empty'] at same
      exact List.map_injective_iff.2 (fun _ _ => String.toList_inj.1) same.symm

end DeviceKernels.Text
