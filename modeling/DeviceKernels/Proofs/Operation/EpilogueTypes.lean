import DeviceKernels.Proofs.Operation.Sources

/-
What the emitted type of an epilogue determines. The element types, the access width and the
activation can be told from it, but the kind only where there is no activation: a fused activation
has one template, clamped or not.
-/

namespace DeviceKernels

open Text Number

theorem Activation.tag_legible : Legible ", " Activation.tag :=
  legible_of_vocabulary isTag all (fun activation => by cases activation <;> decide)
    (by decide +kernel)

namespace Epilogue

variable {first second : Epilogue} {rest rest' : String}

/-- The name of the functor. A fused activation has one, clamped or not. -/
def functorName (epilogue : Epilogue) : String :=
  if epilogue.activation = .identity then
    match epilogue.kind with
    | .linearCombination => "LinearCombination"
    | .linearCombinationClamp => "LinearCombinationClamp"
  else "LinearCombinationGeneric"

/-- The argument for a fused activation, which is the first one. -/
def fusedArgument (epilogue : Epilogue) : String :=
  if epilogue.activation = .identity then "" else epilogue.activation.tag ++ ", "

theorem template_eq (epilogue : Epilogue) :
    epilogue.template = epilogue.functorName ++ ("<" ++ epilogue.fusedArgument) := by
  obtain ⟨kind, -, -, -, -, activation⟩ := epilogue
  cases kind <;> cases activation <;> rfl

/-- A functor name tells whether an activation is fused, and the kind if there is none. -/
theorem functorName_eq_iff : first.functorName = second.functorName ↔
    (first.activation = .identity ↔ second.activation = .identity) ∧
      (first.activation = .identity → first.kind = second.kind) := by
  unfold functorName
  by_cases plain : first.activation = .identity <;>
    by_cases plain' : second.activation = .identity <;>
    cases first.kind <;> cases second.kind <;> simp [plain, plain']

theorem functorName_within (epilogue : Epilogue) :
    Within (isOther '<') epilogue.functorName := by
  unfold functorName
  split
  · split <;> decide
  · decide

theorem template_congr (activation : first.activation = second.activation)
    (kind : first.activation = .identity → first.kind = second.kind) :
    first.template = second.template := by
  have name : first.functorName = second.functorName :=
    functorName_eq_iff.2 ⟨by rw [activation], kind⟩
  rw [template_eq, template_eq, name, fusedArgument, fusedArgument, activation]

/-- The template and the arguments after it can be told from the joined text. -/
theorem template_cancel (joined : first.template ++ rest = second.template ++ rest') :
    first.activation = second.activation ∧
      (first.activation = .identity → first.kind = second.kind) ∧ rest = rest' := by
  have bracket (text : String) : Outside (isOther '<') ("<" ++ text) :=
    Outside.append (by decide) (by decide) text
  simp only [template_eq, String.append_assoc] at joined
  obtain ⟨name, arguments⟩ := append_cancel first.functorName_within second.functorName_within
    (bracket _) (bracket _) joined
  obtain ⟨alike, kind⟩ := functorName_eq_iff.1 name
  have arguments := (String.append_right_inj "<").1 arguments
  -- The name has told whether a tag follows, and only then the comma after it can be looked for.
  by_cases plain : first.activation = .identity
  · rw [fusedArgument, fusedArgument, if_pos plain, if_pos (alike.1 plain)] at arguments
    simp only [String.empty_append] at arguments
    exact ⟨plain.trans (alike.1 plain).symm, kind, arguments⟩
  · rw [fusedArgument, fusedArgument, if_neg plain, if_neg (mt alike.2 plain),
      String.append_assoc, String.append_assoc] at arguments
    obtain ⟨activation, rest_eq⟩ := Activation.tag_legible arguments
    exact ⟨activation, kind, rest_eq⟩

/-- What the emitted type of an epilogue tells. -/
structure SameType (first second : Epilogue) : Prop where
  elementOutput : first.elementOutput = second.elementOutput
  elementsPerAccess : first.elementsPerAccess = second.elementsPerAccess
  elementAccumulator : first.elementAccumulator = second.elementAccumulator
  elementScalar : first.elementScalar = second.elementScalar
  activation : first.activation = second.activation
  /-- An activation hides the kind. -/
  kind : first.activation = .identity → first.kind = second.kind

theorem emit_eq_iff_sameType : first.emit = second.emit ↔ SameType first second := by
  constructor
  · intro same
    unfold emit at same
    simp only [String.append_assoc, String.append_right_inj] at same
    obtain ⟨activation, kind, same⟩ := template_cancel same
    obtain ⟨elementOutput, same⟩ := ElementType.tag_legible same
    obtain ⟨elementsPerAccess, same⟩ := word_legible comma_not_digit (by decide) same
    obtain ⟨elementAccumulator, same⟩ := ElementType.tag_legible same
    have elementScalar := ElementType.tag_injective ((String.append_left_inj ">").1 same)
    exact ⟨elementOutput, elementsPerAccess, elementAccumulator, elementScalar, activation, kind⟩
  · intro same
    have template : first.template = second.template :=
      template_congr same.activation same.kind
    unfold emit
    rw [template, same.elementOutput, same.elementsPerAccess, same.elementAccumulator,
      same.elementScalar]

/-- The type and the kind together are the whole epilogue. -/
theorem SameType.eq (same : SameType first second) (kind : first.kind = second.kind) :
    first = second := by
  rw [mk.injEq]
  exact ⟨kind, same.elementOutput, same.elementAccumulator, same.elementScalar,
    same.elementsPerAccess, same.activation⟩

/-- A clamped epilogue saturates what the plain one computes. -/
theorem apply_clamped {epilogue : Epilogue} (plain : epilogue.kind = .linearCombination)
    (alpha beta accumulator source : Binary32) :
    epilogue.clamped.apply alpha beta accumulator source =
      saturate epilogue.elementOutput (epilogue.apply alpha beta accumulator source) := by
  simp only [apply, clamped, plain]

/-- Epilogues of one type and different kinds have an activation, and saturation is all that they
differ in. -/
theorem SameType.apply_eq (same : SameType first second)
    (plain : first.kind = .linearCombination) (clamps : second.kind = .linearCombinationClamp) :
    first.activation ≠ .identity ∧ ∀ alpha beta accumulator source,
      second.apply alpha beta accumulator source =
        saturate second.elementOutput (first.apply alpha beta accumulator source) := by
  have active : first.activation ≠ .identity := by
    intro identity
    rw [same.kind identity, clamps] at plain
    cases plain
  have whole : first.clamped = second :=
    SameType.eq ⟨same.elementOutput, same.elementsPerAccess, same.elementAccumulator,
      same.elementScalar, same.activation, fun _ => clamps.symm⟩ clamps.symm
  refine ⟨active, fun alpha beta accumulator source => ?_⟩
  rw [← whole, apply_clamped plain]
  rfl

/-- Two epilogues are emitted alike exactly if they agree in their element types, their access width
and their activation, and without an activation also in their kind. So epilogues of one type and one
kind are the same, with one host reference; and where the type hides the kind, the host reference of
the clamped epilogue is the saturated one of the other, for which the type has no place. -/
theorem emit_determines (first second : Epilogue) :
    (first.emit = second.emit ↔ SameType first second) ∧
      (first.emit = second.emit → first.kind = second.kind → first = second) ∧
      (first.emit = second.emit → first.kind = .linearCombination →
        second.kind = .linearCombinationClamp →
          first.activation ≠ .identity ∧ ∀ alpha beta accumulator source,
            second.apply alpha beta accumulator source =
              saturate second.elementOutput (first.apply alpha beta accumulator source)) := by
  refine ⟨emit_eq_iff_sameType, ?_, ?_⟩
  · intro same kind
    exact (emit_eq_iff_sameType.1 same).eq kind
  · intro same plain clamps
    exact (emit_eq_iff_sameType.1 same).apply_eq plain clamps

/-- An epilogue with a fused activation and its clamped form have one type, and on the host one
gives 300 where the other gives 127. -/
theorem fused_clamp_unemitted :
    let plain := (linearCombination .s8 16 .s32 .f32).withActivation .relu
    plain.emit = plain.clamped.emit ∧ plain.kind ≠ plain.clamped.kind ∧
      plain.apply .one .zero (.ofInt 300) .zero = .ofInt 300 ∧
      plain.clamped.apply .one .zero (.ofInt 300) .zero = .ofInt 127 := by
  decide +kernel

end Epilogue

end DeviceKernels
