import Mathlib

/-
What a success tells of the steps before it. A computation that can fail succeeds exactly if each
of its steps does.
-/

namespace DeviceKernels.Outcome

variable {Fault Other Given Result : Type} {result : Result}

/-- A check before other work passes, and the work goes on. -/
theorem of_checked {check : Except Fault Unit} {next : Except Fault Result}
    (passed : (do check; next) = .ok result) : check = .ok () ∧ next = .ok result := by
  cases check with
  | error fault => cases passed
  | ok _ => exact ⟨rfl, passed⟩

theorem checked_iff {check : Except Fault Unit} {next : Except Fault Result} :
    (do check; next) = .ok result ↔ check = .ok () ∧ next = .ok result := by
  constructor
  · exact of_checked
  · rintro ⟨rfl, passed⟩
    exact passed

/-- A value is passed on to the work that needs it. -/
theorem bound_iff {given : Except Fault Given} {work : Given → Except Fault Result} :
    (do work (← given)) = .ok result ↔ ∃ value, given = .ok value ∧ work value = .ok result := by
  cases given with
  | error fault => simp [bind, Except.bind]
  | ok value => simp [bind, Except.bind]

/-- A test that refuses is passed exactly if it fails and the tests after it are passed. -/
theorem refused_iff {condition : Prop} [Decidable condition] {fault : Fault}
    {next : Except Fault Result} :
    (if condition then .error fault else next) = .ok result ↔ ¬condition ∧ next = .ok result := by
  split <;> simp_all

/-- A success stays one under another kind of fault. -/
theorem mapError_ok {given : Except Fault Result} {wrap : Fault → Other} :
    given.mapError wrap = .ok result ↔ given = .ok result := by
  cases given <;> simp [Except.mapError]

theorem toOption_some {given : Except Fault Result} :
    given.toOption = some result ↔ given = .ok result := by
  cases given <;> simp [Except.toOption]

/-- A check of a list is passed exactly if every item passes it. -/
theorem forM_ok {Item : Type} {check : Item → Except Fault Unit} {items : List Item} :
    items.forM check = .ok () ↔ ∀ item ∈ items, check item = .ok () := by
  induction items with
  | nil => simp [List.forM, pure, Except.pure]
  | cons item rest ih =>
      change (do check item; rest.forM check) = .ok () ↔ _
      rw [checked_iff, ih, List.forall_mem_cons]

end DeviceKernels.Outcome
