import DeviceKernels.Memory.Tensor
import Mathlib.Algebra.BigOperators.Group.List.Basic

/-
What a tensor is made of: the number of its elements, the bytes of its elements, and the request
and the write that put it into a pool.
-/

namespace DeviceKernels

namespace Tensor

variable {shape : List Nat} {value result : Nat}

/-- The shape has elements, and their number is a 64-bit word. -/
structure Counted (shape : List Nat) : Prop where
  nonempty : shape ≠ []
  positive : 0 < shape.prod
  word : shape.prod ≤ Number.maxWord64

/-- A product that left the words does not come back. -/
theorem foldl_checkedTimes_none (shape : List Nat) : shape.foldl checkedTimes none = none := by
  induction shape with
  | nil => rfl
  | cons extent rest ih => exact ih

/-- A checked product is exact, and it is a word. -/
theorem foldl_checkedTimes_some (small : value ≤ Number.maxWord64)
    (folded : shape.foldl checkedTimes (some value) = some result) :
    result = value * shape.prod ∧ result ≤ Number.maxWord64 := by
  induction shape generalizing value with
  | nil =>
      cases folded
      simpa using small
  | cons extent rest ih =>
      rw [List.foldl_cons, checkedTimes, Option.bind_some] at folded
      split at folded
      case isTrue word =>
        rw [List.prod_cons, ← mul_assoc]
        exact ih word folded
      case isFalse => simp [foldl_checkedTimes_none] at folded

/-- A positive product that is a word passes the check. -/
theorem foldl_checkedTimes (positive : 0 < value * shape.prod)
    (word : value * shape.prod ≤ Number.maxWord64) :
    shape.foldl checkedTimes (some value) = some (value * shape.prod) := by
  induction shape generalizing value with
  | nil => simp
  | cons extent rest ih =>
      rw [List.prod_cons, ← mul_assoc] at positive word ⊢
      -- No later factor is zero, so the product so far is not above the whole one.
      have first : value * extent ≤ value * extent * rest.prod :=
        Nat.le_mul_of_pos_right _ (Nat.pos_of_mul_pos_left positive)
      have small : value * extent ≤ Number.maxWord64 := Nat.le_trans first word
      rw [List.foldl_cons, checkedTimes, Option.bind_some, if_pos small]
      exact ih positive word

/-- The elements of a shape are counted exactly if it has some and their number is a word. -/
theorem checkedElements_outcome (shape : List Nat) :
    Counted shape ∧ checkedElements shape = .ok shape.prod ∨
      ¬Counted shape ∧ ∃ size, checkedElements shape = .error (.invalidSize size) := by
  rw [checkedElements]
  split
  case h_1 missing =>
    refine .inr ⟨?_, _, rfl⟩
    rintro ⟨-, positive, word⟩
    have counted := @foldl_checkedTimes shape 1 (by simpa using positive) (by simpa using word)
    rw [missing] at counted
    cases counted
  case h_2 elements folded =>
    obtain ⟨exact, word⟩ := foldl_checkedTimes_some (by decide) folded
    rw [one_mul] at exact
    subst exact
    split
    case isTrue none =>
      refine .inr ⟨?_, _, rfl⟩
      rintro ⟨nonempty, positive, -⟩
      simp only [Bool.or_eq_true, List.isEmpty_iff, beq_iff_eq] at none
      exact none.elim nonempty (Nat.ne_of_gt positive)
    case isFalse some =>
      simp only [Bool.or_eq_true, List.isEmpty_iff, beq_iff_eq, not_or] at some
      exact .inl ⟨⟨some.1, Nat.pos_of_ne_zero some.2, word⟩, rfl⟩

theorem length_flatMap_write (host : HostElement) (data : List host.Value) :
    (data.flatMap host.write).length = data.length * host.element.byteSize := by
  induction data with
  | nil => simp
  | cons value rest ih =>
      rw [List.flatMap_cons, List.length_append, ih, HostElement.lengthWrite, List.length_cons,
        Nat.succ_mul, Nat.add_comm]

section

variable {Device : Type} [DeviceAllocator Device]

/-- An upload is refused for its shape, or it places the bytes of the data. -/
theorem upload_outcome (pool : Pool Device) (host : HostElement) (data : List host.Value)
    (shape : List Nat) :
    ¬(Counted shape ∧ shape.prod = data.length) ∧
        (∃ size, upload pool host data shape = (.error (.invalidSize size), pool)) ∨
      Counted shape ∧ shape.prod = data.length ∧ upload pool host data shape =
        place pool host.element shape (data.length * host.element.byteSize)
          (data.flatMap host.write) := by
  rw [upload]
  rcases checkedElements_outcome shape with ⟨counted, checked⟩ | ⟨uncounted, size, refused⟩
  · rw [checked]
    by_cases same : shape.prod = data.length
    · refine .inr ⟨counted, same, ?_⟩
      simp only [same, bne_self_eq_false, Bool.false_eq_true, if_false, length_flatMap_write]
    · refine .inl ⟨fun both => same both.2, data.length, ?_⟩
      simp [same]
  · rw [refused]
    exact .inl ⟨fun both => uncounted both.1, size, rfl⟩

/-- Zeros are refused for their shape or for a size that is no word, or they are placed. -/
theorem zeros_outcome (pool : Pool Device) (element : ElementType) (shape : List Nat) :
    ¬Counted shape ∧ (∃ size, zeros pool element shape = (.error (.invalidSize size), pool)) ∨
      Counted shape ∧ Number.maxWord64 < shape.prod * element.byteSize ∧
        zeros pool element shape = (.error .overflow, pool) ∨
      Counted shape ∧ shape.prod * element.byteSize ≤ Number.maxWord64 ∧
        zeros pool element shape = place pool element shape (shape.prod * element.byteSize)
          (List.replicate (shape.prod * element.byteSize) 0) := by
  rw [zeros]
  rcases checkedElements_outcome shape with ⟨counted, checked⟩ | ⟨uncounted, size, refused⟩
  · simp only [checked, checkedWord]
    by_cases word : shape.prod * element.byteSize ≤ Number.maxWord64
    · exact .inr (.inr ⟨counted, word, by simp [word]⟩)
    · exact .inr (.inl ⟨counted, Nat.not_le.mp word, by simp [word]⟩)
  · rw [refused]
    exact .inl ⟨uncounted, size, rfl⟩

end

end Tensor

end DeviceKernels
