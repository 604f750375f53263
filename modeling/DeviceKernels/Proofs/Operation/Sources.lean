import DeviceKernels.Operation.Catalog
import DeviceKernels.Operation.ModuleSource
import DeviceKernels.Proofs.Operation.Names

/-
What a source tells beyond its name. The emitted source of an operation is read part by part,
which gives the settings that its procedural name leaves out.
-/

namespace DeviceKernels

open Text

/-- Template arguments stand on lines of their own and have no parentheses. -/
def isInline (character : Char) : Bool := character != '\n' && character != '('

/-- The parts of one argument stand between commas and end at a bracket. -/
def isTag (character : Char) : Bool := character != ',' && character != '>'

theorem decimal_inline (number : Nat) : Within isInline (decimal number) := by
  refine (decimal_within number).mono fun character digit => ?_
  rw [isInline, Bool.and_eq_true, bne_iff_ne, bne_iff_ne]
  constructor <;>
    · rintro rfl
      exact absurd digit (by decide)

theorem comma_inline : Within isInline ", " := by decide

theorem comma_not_digit : Outside isDigit ", " := by decide

theorem ElementType.tag_inline (element : ElementType) : Within isInline element.tag := by
  cases element <;> rfl

theorem ElementType.tag_legible : Legible ", " ElementType.tag :=
  legible_of_vocabulary isTag all memAll (by decide)

theorem ElementType.tag_injective : Function.Injective ElementType.tag :=
  injective_of_nodup all memAll (by decide)

theorem Layout.tag_inline (layout : Layout) : Within isInline layout.tag := by
  cases layout <;> rfl

theorem Layout.tag_injective : Function.Injective Layout.tag :=
  injective_of_nodup [rowMajor, columnMajor, tensorNhwc] mem_all (by decide)

theorem OpcodeClass.tag_inline (opcodeClass : OpcodeClass) : Within isInline opcodeClass.tag := by
  cases opcodeClass <;> rfl

theorem MathOperation.tag_inline (mathOperation : MathOperation) :
    Within isInline mathOperation.tag := by
  cases mathOperation <;> rfl

theorem MathOperation.tag_injective : Function.Injective MathOperation.tag :=
  injective_of_nodup [multiplyAdd, multiplyAddFastF32, multiplyAddSaturate]
    (fun mathOperation => by cases mathOperation <;> decide) (by decide)

theorem Swizzle.tag_inline (swizzle : Swizzle) : Within isInline swizzle.tag := by
  cases swizzle <;> rfl

theorem Swizzle.tag_injective : Function.Injective Swizzle.tag :=
  injective_of_nodup [identity1, identity2, identity4, identity8, streamK]
    (fun swizzle => by cases swizzle <;> decide) (by decide)

theorem IteratorAlgorithm.tag_inline (iterator : IteratorAlgorithm) :
    Within isInline iterator.tag := by
  cases iterator <;> rfl

theorem StrideSupport.tag_inline (strideSupport : StrideSupport) :
    Within isInline strideSupport.tag := by
  cases strideSupport <;> rfl

theorem TileShape.tag_inline (shape : TileShape) : Within isInline shape.tag := by
  have opening : Within isInline "cutlass::gemm::GemmShape<" := rfl
  exact (((((opening.append (decimal_inline _)).append comma_inline).append
    (decimal_inline _)).append comma_inline).append (decimal_inline _)).append rfl

theorem TileShape.tag_injective : Function.Injective TileShape.tag := by
  intro first second same
  unfold tag at same
  simp only [String.append_assoc] at same
  have beforeComma := word_legible comma_not_digit (by decide)
  obtain ⟨rows, same⟩ := beforeComma ((String.append_right_inj _).1 same)
  obtain ⟨columns, same⟩ := beforeComma same
  have depth := word_injective ((String.append_left_inj ">").1 same)
  rw [TileShape.mk.injEq]
  exact ⟨rows, columns, depth⟩

theorem Activation.tag_inline (activation : Activation) : Within isInline activation.tag := by
  cases activation <;> rfl

/-- What the source of an epilogue tells and a procedural name does not. -/
structure EpilogueRest where
  elementsPerAccess : UInt32
  elementAccumulator : ElementType
  elementScalar : ElementType
  deriving DecidableEq

namespace Epilogue

def unnamed (epilogue : Epilogue) : EpilogueRest :=
  ⟨epilogue.elementsPerAccess, epilogue.elementAccumulator, epilogue.elementScalar⟩

theorem template_inline (epilogue : Epilogue) : Within isInline epilogue.template := by
  rw [template]
  split
  · rfl
  · rfl
  · have opening : Within isInline "LinearCombinationGeneric<" := rfl
    exact (opening.append (Activation.tag_inline _)).append comma_inline

theorem emit_inline (epilogue : Epilogue) : Within isInline epilogue.emit := by
  have opening : Within isInline "cutlass::epilogue::thread::" := rfl
  exact ((((((((opening.append epilogue.template_inline).append
    epilogue.elementOutput.tag_inline).append comma_inline).append (decimal_inline _)).append
    comma_inline).append epilogue.elementAccumulator.tag_inline).append comma_inline).append
    epilogue.elementScalar.tag_inline).append rfl

/-- Epilogues of one name and one output type are emitted alike exactly if they agree in the
settings that the name leaves out. -/
theorem emit_eq_iff {first second : Epilogue} (activation : first.activation = second.activation)
    (kind : first.kind = second.kind) (output : first.elementOutput = second.elementOutput) :
    first.emit = second.emit ↔ first.unnamed = second.unnamed := by
  have template : first.template = second.template := by
    rw [Epilogue.template, Epilogue.template, activation, kind]
  constructor
  · intro same
    unfold emit at same
    simp only [template, output, String.append_assoc, String.append_right_inj] at same
    obtain ⟨elementsPerAccess, same⟩ := word_legible comma_not_digit (by decide) same
    obtain ⟨elementAccumulator, same⟩ := ElementType.tag_legible same
    have elementScalar := ElementType.tag_injective ((String.append_left_inj ">").1 same)
    rw [unnamed, unnamed, EpilogueRest.mk.injEq]
    exact ⟨elementsPerAccess, elementAccumulator, elementScalar⟩
  · intro same
    rw [unnamed, unnamed, EpilogueRest.mk.injEq] at same
    unfold emit
    rw [template, output, same.1, same.2.1, same.2.2]

end Epilogue

/-- What the source of a product or a convolution tells and its procedural name does not. A grouped
product has a swizzle of its own. -/
structure TiledRest where
  elementB : ElementType
  alignmentB : UInt32
  layoutC : Layout
  elementAccumulator : ElementType
  warpShape : TileShape
  instructionShape : TileShape
  epilogue : EpilogueRest
  swizzle : Option Swizzle
  mathOperation : MathOperation
  deriving DecidableEq

/-- An operand as two template arguments and its alignment. -/
def OperandDescription.emitted (operand : OperandDescription) : String :=
  operand.element.tag ++ ", " ++ operand.layout.tag ++ ", cutlass::ComplexTransform::kNone, " ++
    decimal operand.alignment.toNat

theorem OperandDescription.emitted_inline (operand : OperandDescription) :
    Within isInline operand.emitted := by
  have transform : Within isInline ", cutlass::ComplexTransform::kNone, " := rfl
  exact (((operand.element.tag_inline.append comma_inline).append
    operand.layout.tag_inline).append transform).append (decimal_inline _)

/-- Operands of one layout are emitted alike exactly if element and alignment are the same. -/
theorem OperandDescription.emitted_eq_iff {first second : OperandDescription}
    (layout : first.layout = second.layout) : first.emitted = second.emitted ↔
      first.element = second.element ∧ first.alignment = second.alignment := by
  unfold emitted
  rw [layout]
  constructor
  · intro same
    simp only [String.append_assoc] at same
    obtain ⟨element, same⟩ := ElementType.tag_legible same
    simp only [String.append_right_inj] at same
    exact ⟨element, word_injective same⟩
  · rintro ⟨element, alignment⟩
    rw [element, alignment]

namespace GemmOperation

def unnamed (operation : GemmOperation) : TiledRest where
  elementB := operation.b.element
  alignmentB := operation.b.alignment
  layoutC := operation.c.layout
  elementAccumulator := operation.tile.instruction.elementAccumulator
  warpShape := operation.tile.warpShape
  instructionShape := operation.tile.instruction.emittedShape
  epilogue := operation.epilogue.unnamed
  swizzle := if operation.kind = .grouped then none else some operation.swizzle
  mathOperation := operation.tile.instruction.mathOperation

/-- The template arguments of a source. -/
def templateArguments (operation : GemmOperation) : List String :=
  operation.emitOperands ++ operation.emitShapes ++ operation.emitSchedule

theorem emitOperands_eq (operation : GemmOperation) :
    operation.emitOperands = [operation.a.emitted, operation.b.emitted,
      operation.c.element.tag ++ ", " ++ operation.c.layout.tag,
      operation.tile.instruction.elementAccumulator.tag] := by
  unfold emitOperands OperandDescription.emitted
  simp only [String.append_assoc]

theorem emitOperands_inline (operation : GemmOperation) :
    ∀ part ∈ operation.emitOperands, Within isInline part := by
  rw [emitOperands_eq]
  simp only [List.forall_mem_cons]
  exact ⟨operation.a.emitted_inline, operation.b.emitted_inline,
    (operation.c.element.tag_inline.append comma_inline).append operation.c.layout.tag_inline,
    ElementType.tag_inline _, List.forall_mem_nil _⟩

theorem emitShapes_inline (operation : GemmOperation) :
    ∀ part ∈ operation.emitShapes, Within isInline part := by
  have target : Within isInline "cutlass::arch::Sm" := rfl
  simp only [emitShapes, List.forall_mem_cons]
  exact ⟨OpcodeClass.tag_inline _, target.append (decimal_inline _), TileShape.tag_inline _,
    TileShape.tag_inline _, TileShape.tag_inline _, operation.epilogue.emit_inline,
    List.forall_mem_nil _⟩

theorem emitSchedule_inline (operation : GemmOperation) :
    ∀ part ∈ operation.emitSchedule, Within isInline part := by
  unfold emitSchedule
  split
  · simp only [List.forall_mem_cons]
    exact ⟨rfl, decimal_inline _, rfl, MathOperation.tag_inline _, List.forall_mem_nil _⟩
  · simp only [List.forall_mem_cons]
    exact ⟨Swizzle.tag_inline _, decimal_inline _, MathOperation.tag_inline _,
      List.forall_mem_nil _⟩

theorem templateArguments_inline (operation : GemmOperation) :
    ∀ part ∈ operation.templateArguments, Within isInline part := by
  intro part member
  rcases List.mem_append.1 member with front | schedule
  · exact (List.mem_append.1 front).elim (operation.emitOperands_inline part)
      (operation.emitShapes_inline part)
  · exact operation.emitSchedule_inline part schedule

theorem templateArguments_length {first second : GemmOperation} (kind : first.kind = second.kind) :
    first.templateArguments.length = second.templateArguments.length := by
  simp only [templateArguments, emitOperands_eq, emitShapes, emitSchedule, kind]
  cases second.kind <;> simp

/-- The source from the left. -/
theorem emit_eq (operation : GemmOperation) :
    operation.emit = "// Gemm operator " ++ (operation.proceduralName ++ ("\nusing " ++
      (operation.proceduralName ++ ("_base =\n  typename cutlass::gemm::kernel::" ++
      (operation.template ++ ("<\n    " ++
      (join ("," ++ "\n    ") operation.templateArguments ++
      ("\n  >::GemmKernel;\n\n" ++ kernelEntry operation.proceduralName)))))))) := by
  unfold emit templateArguments
  simp only [String.append_assoc]
  rfl

theorem emit_eq_iff_templateArguments {first second : GemmOperation}
    (same : first.proceduralName = second.proceduralName) :
    first.emit = second.emit ↔ first.templateArguments = second.templateArguments := by
  have kind := (sameName_of_eq same).kind
  have template : first.template = second.template := by
    rw [GemmOperation.template, GemmOperation.template, kind]
  rw [emit_eq, emit_eq, same, template]
  simp only [String.append_right_inj, String.append_left_inj]
  exact ⟨join_cancel (by decide) (by decide) (by decide) (templateArguments_length kind)
    first.templateArguments_inline second.templateArguments_inline, congrArg _⟩

/-- Products of one name have the same source exactly if they agree in the settings that the name
leaves out. -/
theorem emit_eq_iff {first second : GemmOperation}
    (same : first.proceduralName = second.proceduralName)
    (output : first.epilogue.elementOutput = second.epilogue.elementOutput) :
    first.emit = second.emit ↔ first.unnamed = second.unnamed := by
  have named := sameName_of_eq same
  have operandA : first.a.emitted = second.a.emitted := by
    unfold OperandDescription.emitted
    rw [named.elementA, named.layoutA, named.alignmentA]
  rw [emit_eq_iff_templateArguments same]
  simp only [templateArguments, emitOperands_eq, emitShapes, emitSchedule, operandA,
    named.elementC, named.arch, named.opcodeClass, named.block, named.stages, named.kind,
    List.cons_append, List.nil_append, List.cons.injEq, unnamed, TiledRest.mk.injEq, true_and,
    OperandDescription.emitted_eq_iff named.layoutB, and_assoc,
    Epilogue.emit_eq_iff named.activation named.epilogueKind output, String.append_right_inj,
    TileShape.tag_injective.eq_iff, ElementType.tag_injective.eq_iff, Layout.tag_injective.eq_iff]
  cases second.kind <;>
    simp [Swizzle.tag_injective.eq_iff, MathOperation.tag_injective.eq_iff]

end GemmOperation

namespace ConvolutionOperation

def unnamed (operation : ConvolutionOperation) : TiledRest where
  elementB := operation.b.element
  alignmentB := operation.b.alignment
  layoutC := operation.c.layout
  elementAccumulator := operation.elementAccumulator
  warpShape := operation.tile.warpShape
  instructionShape := operation.tile.instruction.emittedShape
  epilogue := operation.epilogue.unnamed
  swizzle := some operation.swizzle
  mathOperation := operation.tile.instruction.mathOperation

theorem emitArguments_inline (operation : ConvolutionOperation) :
    ∀ part ∈ operation.emitArguments, Within isInline part := by
  have target : Within isInline "cutlass::arch::Sm" := rfl
  simp only [emitArguments, List.forall_mem_cons]
  exact ⟨ElementType.tag_inline _, Layout.tag_inline _, ElementType.tag_inline _,
    Layout.tag_inline _, ElementType.tag_inline _, Layout.tag_inline _, ElementType.tag_inline _,
    OpcodeClass.tag_inline _, target.append (decimal_inline _), TileShape.tag_inline _,
    TileShape.tag_inline _, TileShape.tag_inline _, operation.epilogue.emit_inline,
    Swizzle.tag_inline _, decimal_inline _, MathOperation.tag_inline _,
    IteratorAlgorithm.tag_inline _, StrideSupport.tag_inline _, decimal_inline _,
    decimal_inline _, List.forall_mem_nil _⟩

/-- The source from the left. -/
theorem emit_eq (operation : ConvolutionOperation) :
    operation.emit = "// Conv2d" ++ (operation.kind.shortName ++ (" operator " ++
      (operation.proceduralName ++ ("\nusing " ++ (operation.proceduralName ++
      ("_base =\n  typename cutlass::conv::kernel::" ++ (operation.kind.template ++ ("<\n    " ++
      (join ("," ++ "\n    ") operation.emitArguments ++
      ("\n  >::Kernel;\n\n" ++ kernelEntry operation.proceduralName)))))))))) := by
  unfold emit
  simp only [String.append_assoc]
  rfl

theorem emit_eq_iff_emitArguments {first second : ConvolutionOperation}
    (same : first.proceduralName = second.proceduralName) :
    first.emit = second.emit ↔ first.emitArguments = second.emitArguments := by
  rw [emit_eq, emit_eq, same, (sameName_of_eq same).kind]
  simp only [String.append_right_inj, String.append_left_inj]
  exact ⟨join_cancel (by decide) (by decide) (by decide) (by simp [emitArguments])
    first.emitArguments_inline second.emitArguments_inline, congrArg _⟩

/-- Convolutions of one name over inputs of one layout have the same source exactly if they agree in
the settings that the name leaves out. -/
theorem emit_eq_iff {first second : ConvolutionOperation}
    (same : first.proceduralName = second.proceduralName)
    (layoutA : first.a.layout = second.a.layout) (layoutB : first.b.layout = second.b.layout)
    (output : first.epilogue.elementOutput = second.epilogue.elementOutput) :
    first.emit = second.emit ↔ first.unnamed = second.unnamed := by
  have named := sameName_of_eq same
  rw [emit_eq_iff_emitArguments same]
  simp only [emitArguments, named.elementA, named.elementC, layoutA, layoutB, named.arch,
    named.opcodeClass, named.block, named.stages, named.iterator, named.strideSupport,
    named.alignmentA, List.cons.injEq, unnamed, TiledRest.mk.injEq, true_and, and_true,
    Epilogue.emit_eq_iff named.activation named.epilogueKind output, Option.some.injEq,
    TileShape.tag_injective.eq_iff, ElementType.tag_injective.eq_iff, Layout.tag_injective.eq_iff,
    Swizzle.tag_injective.eq_iff, MathOperation.tag_injective.eq_iff, word_injective.eq_iff]
  constructor
  · rintro ⟨elementB, layoutC, accumulator, warps, instruction, epilogue, swizzle, math, alignmentB⟩
    exact ⟨elementB, alignmentB, layoutC, accumulator, warps, instruction, epilogue, swizzle, math⟩
  · rintro ⟨elementB, alignmentB, layoutC, accumulator, warps, instruction, epilogue, swizzle, math⟩
    exact ⟨elementB, layoutC, accumulator, warps, instruction, epilogue, swizzle, math, alignmentB⟩

end ConvolutionOperation

/-- Reductions of one name have the same source exactly if their epilogues agree in the settings that
the name leaves out. -/
theorem ReductionOperation.emit_eq_iff {first second : ReductionOperation}
    (same : first.proceduralName = second.proceduralName) :
    first.emit = second.emit ↔ first.epilogue.unnamed = second.epilogue.unnamed := by
  have named := sameName_of_eq same
  have columns : first.columnsPerBlock = second.columnsPerBlock := by
    rw [columnsPerBlock, columnsPerBlock, named.shape, named.count]
  rw [← Epilogue.emit_eq_iff named.activation named.epilogueKind named.elementOutput]
  unfold emit
  simp only [same, columns, named.shape, named.elementAccumulator, named.count,
    String.append_right_inj, String.append_left_inj]

end DeviceKernels
