import DeviceKernels.Proofs.Operation.Exports

/-
What a procedural name determines. A name is put together of parts, and all of its parts can be
told from it, so two operations have one name exactly if they are of one family and have the same
parts.
-/

namespace DeviceKernels

theorem TileDescription.proceduralName_congr {first second : TileDescription}
    (block : first.block = second.block) (stages : first.stages = second.stages) :
    first.proceduralName = second.proceduralName := by
  rw [proceduralName, proceduralName, block, stages]

theorem Epilogue.proceduralSuffix_congr {first second : Epilogue}
    (activation : first.activation = second.activation) (kind : first.kind = second.kind) :
    first.proceduralSuffix = second.proceduralSuffix := by
  rw [proceduralSuffix, proceduralSuffix, activation, kind]

theorem GemmOperation.proceduralName_eq_iff {first second : GemmOperation} :
    first.proceduralName = second.proceduralName ↔ SameName first second := by
  refine ⟨sameName_of_eq, fun same => ?_⟩
  rw [proceduralName_eq, proceduralName_eq, same.arch, same.opcodeClass, same.core, same.elementA,
    same.elementC, TileDescription.proceduralName_congr same.block same.stages, same.layoutA,
    same.layoutB, same.alignmentA,
    Epilogue.proceduralSuffix_congr same.activation same.epilogueKind, same.kind]

theorem ConvolutionOperation.proceduralName_eq_iff {first second : ConvolutionOperation} :
    first.proceduralName = second.proceduralName ↔ SameName first second := by
  refine ⟨sameName_of_eq, fun same => ?_⟩
  rw [proceduralName_eq, proceduralName_eq, same.arch, same.opcodeClass, same.core, same.iterator,
    same.elementA, same.elementC, TileDescription.proceduralName_congr same.block same.stages,
    same.alignmentA, Epilogue.proceduralSuffix_congr same.activation same.epilogueKind,
    same.strideSupport]

theorem ReductionOperation.proceduralName_eq_iff {first second : ReductionOperation} :
    first.proceduralName = second.proceduralName ↔ SameName first second := by
  refine ⟨sameName_of_eq, fun same => ?_⟩
  rw [proceduralName_eq, proceduralName_eq, same.arch, same.elementAccumulator,
    same.elementOutput, same.count, same.shape,
    Epilogue.proceduralSuffix_congr same.activation same.epilogueKind]

namespace Operation

/-- Operations of one family that agree in everything that a name of the family tells. -/
inductive SameName : Operation → Operation → Prop
  | gemm {first second : GemmOperation} (same : first.SameName second) :
      SameName (.gemm first) (.gemm second)
  | convolution {first second : ConvolutionOperation} (same : first.SameName second) :
      SameName (.convolution first) (.convolution second)
  | reduction {first second : ReductionOperation} (same : first.SameName second) :
      SameName (.reduction first) (.reduction second)

variable {first second : Operation}

theorem SameName.name_eq (same : SameName first second) :
    first.toKernel.name = second.toKernel.name := by
  cases same with
  | gemm same => exact GemmOperation.proceduralName_eq_iff.2 same
  | convolution same => exact ConvolutionOperation.proceduralName_eq_iff.2 same
  | reduction same => exact ReductionOperation.proceduralName_eq_iff.2 same

theorem SameName.family_eq (same : SameName first second) :
    first.toKernel.family = second.toKernel.family := by
  cases same <;> rfl

/-- No two families share a name. -/
theorem sameName_of_name_eq (described : first.IsDescribed) (described' : second.IsDescribed)
    (same : first.toKernel.name = second.toKernel.name) : SameName first second := by
  cases first with
  | custom => exact described.elim
  | gemm first =>
      cases second with
      | custom => exact described'.elim
      | gemm second => exact .gemm (GemmOperation.sameName_of_eq same)
      | convolution second => exact absurd same (first.proceduralName_ne_convolution second)
      | reduction second => exact absurd same (first.proceduralName_ne_reduction second)
  | convolution first =>
      cases second with
      | custom => exact described'.elim
      | gemm second => exact absurd same.symm (second.proceduralName_ne_convolution first)
      | convolution second => exact .convolution (ConvolutionOperation.sameName_of_eq same)
      | reduction second => exact absurd same (first.proceduralName_ne_reduction second)
  | reduction first =>
      cases second with
      | custom => exact described'.elim
      | gemm second => exact absurd same.symm (second.proceduralName_ne_reduction first)
      | convolution second => exact absurd same.symm (second.proceduralName_ne_reduction first)
      | reduction second => exact .reduction (ReductionOperation.sameName_of_eq same)

/-- Described operations have one name exactly if they agree in everything that a name of their
family tells, and then they are of one family. -/
theorem name_determines (described : first.IsDescribed) (described' : second.IsDescribed) :
    (first.toKernel.name = second.toKernel.name ↔ SameName first second) ∧
      (first.toKernel.name = second.toKernel.name →
        first.toKernel.family = second.toKernel.family) := by
  have told := sameName_of_name_eq described described'
  exact ⟨⟨told, SameName.name_eq⟩, fun same => (told same).family_eq⟩

/-- The numbers of a block keep apart what the digits of an instruction shape run together. -/
theorem name_determines_digits :
    let shaped (block shape : TileShape) : GemmOperation :=
      { (default : GemmOperation) with
        tile := { (default : TileDescription) with
          block
          instruction := { (default : MathInstruction) with
            shape, opcodeClass := .tensorOp } } }
    (gemm (shaped ⟨1, 11, 1⟩ ⟨1, 1, 1⟩)).toKernel.name ≠
        (gemm (shaped ⟨11, 1, 1⟩ ⟨1, 1, 1⟩)).toKernel.name ∧
      (gemm (shaped ⟨1, 1, 1⟩ ⟨1, 11, 1⟩)).toKernel.name =
        (gemm (shaped ⟨1, 1, 1⟩ ⟨11, 1, 1⟩)).toKernel.name := by
  intro shaped
  have described (operation : GemmOperation) : (gemm operation).IsDescribed := trivial
  constructor
  · intro same
    obtain ⟨same⟩ := (name_determines (described _) (described _)).1.1 same
    exact absurd same.block (by decide)
  · refine (name_determines (described _) (described _)).1.2 (.gemm ?_)
    exact ⟨rfl, rfl, by decide, rfl, rfl, rfl, rfl, rfl, rfl, rfl, rfl, rfl, rfl⟩

end Operation

end DeviceKernels
