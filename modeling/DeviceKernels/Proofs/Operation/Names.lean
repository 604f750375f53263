import DeviceKernels.Operation.Any
import DeviceKernels.Proofs.Text.Reading

/-
What a procedural name tells. Every name is read from the left, part by part, so operations of one
name have the same family and agree in all parts of the name.
-/

namespace DeviceKernels

open Text

variable {rest rest' : String}

/-- The parts of a name stand between underscores. -/
def isPart : Char → Bool := isOther '_'

theorem underscore_outside : Outside isPart "_" := by decide

theorem underscore_not_digit : Outside isDigit "_" := by decide

theorem ElementType.shortName_legible : Legible "_" ElementType.shortName :=
  legible_of_vocabulary isPart all memAll (by decide)

theorem OpcodeClass.mem_all (opcodeClass : OpcodeClass) : opcodeClass ∈ [simt, tensorOp] := by
  cases opcodeClass <;> decide

theorem OpcodeClass.shortName_legible : Legible "_" OpcodeClass.shortName :=
  legible_of_vocabulary isPart [simt, tensorOp] mem_all (by decide)

/-- The first two letters tell the iterators apart, of which some have an underscore inside. -/
theorem IteratorAlgorithm.shortName_cancel {first second : IteratorAlgorithm}
    (joined : first.shortName ++ rest = second.shortName ++ rest') :
    first = second ∧ rest = rest' := by
  have letters := congrArg (fun text => text.toList.take 2) joined
  have same : first = second := by
    cases first <;> cases second <;>
      simp [shortName, String.toList_append] at letters ⊢
  subst same
  exact ⟨rfl, (String.append_right_inj first.shortName).1 joined⟩

/-- The layouts of two operands, without a separator between them. -/
def Layout.pairName (layouts : Layout × Layout) : String :=
  layouts.1.shortName ++ layouts.2.shortName

theorem Layout.mem_all (layout : Layout) : layout ∈ [rowMajor, columnMajor, tensorNhwc] := by
  cases layout <;> decide

theorem Layout.pairName_legible : Legible "_" Layout.pairName :=
  legible_of_vocabulary isPart
    ([rowMajor, columnMajor, tensorNhwc].product [rowMajor, columnMajor, tensorNhwc])
    (fun layouts => List.mem_product.2 ⟨mem_all layouts.1, mem_all layouts.2⟩) (by decide)

theorem TileDescription.proceduralName_cancel {first second : TileDescription}
    (outside : Outside isDigit rest) (outside' : Outside isDigit rest')
    (joined : first.proceduralName ++ rest = second.proceduralName ++ rest') :
    first.block = second.block ∧ first.stages = second.stages ∧ rest = rest' := by
  simp only [proceduralName, String.append_assoc] at joined
  have beforeX : Legible "x" fun word : UInt32 => decimal word.toNat :=
    word_legible (by decide) (by decide)
  have beforeUnderscore := word_legible underscore_not_digit (by decide)
  obtain ⟨rows, joined⟩ := beforeX joined
  obtain ⟨columns, joined⟩ := beforeUnderscore joined
  obtain ⟨depth, joined⟩ := beforeX joined
  obtain ⟨stages, joined⟩ := word_cancel outside outside' joined
  refine ⟨?_, stages, joined⟩
  rw [TileShape.mk.injEq]
  exact ⟨rows, columns, depth⟩

theorem MathInstruction.accumulatorLetter_within (instruction : MathInstruction) :
    Within isPart instruction.accumulatorLetter := by
  rw [accumulatorLetter]
  split <;> decide

theorem decimal_part (number : Nat) : Within isPart (decimal number) :=
  decimal_other (by decide) number

theorem MathInstruction.shapeName_within (instruction : MathInstruction) :
    Within isPart instruction.shapeName := by
  rw [shapeName]
  split
  · decide
  · exact ((decimal_part _).append (decimal_part _)).append (decimal_part _)

/-- A name ends with the words of the epilogue and a word of the family. -/
def Epilogue.ending {Word : Type} (word : Word → String)
    (ending : Activation × EpilogueKind × Word) : String :=
  proceduralSuffix { (default : Epilogue) with activation := ending.1, kind := ending.2.1 } ++
    word ending.2.2

/-- Every ending with one of the words. -/
def Epilogue.endings {Word : Type} (words : List Word) : List (Activation × EpilogueKind × Word) :=
  Activation.all.product ([EpilogueKind.linearCombination, .linearCombinationClamp].product words)

theorem Epilogue.mem_endings {Word : Type} {words : List Word} (complete : ∀ word, word ∈ words)
    (ending : Activation × EpilogueKind × Word) : ending ∈ endings words := by
  obtain ⟨activation, kind, word⟩ := ending
  refine List.mem_product.2 ⟨?_, List.mem_product.2 ⟨?_, complete word⟩⟩
  · cases activation <;> decide
  · cases kind <;> decide

theorem Epilogue.proceduralSuffix_outside (epilogue : Epilogue) :
    Outside isDigit epilogue.proceduralSuffix := by
  refine Outside.append_outside ?_ ?_
  · split
    · decide
    · exact underscore_not_digit.append (by decide) _
  · split <;> decide

/-- An ending begins with an underscore, so a number before it ends where it begins. -/
theorem Epilogue.ending_outside {Word : Type} {word : Word → String}
    (outside : ∀ value, Outside isDigit (word value))
    (ending : Activation × EpilogueKind × Word) : Outside isDigit (Epilogue.ending word ending) :=
  (proceduralSuffix_outside _).append_outside (outside _)

theorem GemmKind.suffix_outside (kind : GemmKind) : Outside isDigit kind.suffix := by
  cases kind <;> decide

theorem StrideSupport.suffix_outside (strideSupport : StrideSupport) :
    Outside isDigit strideSupport.suffix := by
  cases strideSupport <;> decide

theorem GemmKind.ending_injective : Function.Injective (Epilogue.ending GemmKind.suffix) :=
  injective_of_nodup (Epilogue.endings [universal, streamK, grouped])
    (Epilogue.mem_endings fun kind => by cases kind <;> decide) (by decide +kernel)

theorem StrideSupport.ending_injective :
    Function.Injective (Epilogue.ending StrideSupport.suffix) :=
  injective_of_nodup (Epilogue.endings [strided, unity])
    (Epilogue.mem_endings fun strideSupport => by cases strideSupport <;> decide)
    (by decide +kernel)

/-- The number before an ending and the ending can be told from the joined text. -/
theorem Epilogue.ending_cancel {Word : Type} {word : Word → String}
    (outside : ∀ value, Outside isDigit (word value))
    (injective : Function.Injective (Epilogue.ending word)) {number number' : UInt32}
    {epilogue epilogue' : Epilogue} {value value' : Word}
    (joined : decimal number.toNat ++ (epilogue.proceduralSuffix ++ word value) =
      decimal number'.toNat ++ (epilogue'.proceduralSuffix ++ word value')) :
    number = number' ∧ epilogue.activation = epilogue'.activation ∧
      epilogue.kind = epilogue'.kind ∧ value = value' := by
  obtain ⟨numbers, endings⟩ := word_cancel
    (ending_outside outside (epilogue.activation, epilogue.kind, value))
    (ending_outside outside (epilogue'.activation, epilogue'.kind, value')) joined
  have same : (epilogue.activation, epilogue.kind, value) =
      (epilogue'.activation, epilogue'.kind, value') := injective endings
  simp only [Prod.mk.injEq] at same
  exact ⟨numbers, same⟩

/-- Products and convolutions begin their names alike. -/
theorem heading_cancel {arch arch' : UInt32} {opcodeClass opcodeClass' : OpcodeClass}
    {core core' : String} (within : Within isPart core) (within' : Within isPart core')
    (joined : "cutlass_sm" ++ (decimal arch.toNat ++ ("_" ++ (opcodeClass.shortName ++
        ("_" ++ (core ++ ("_" ++ rest)))))) =
      "cutlass_sm" ++ (decimal arch'.toNat ++ ("_" ++ (opcodeClass'.shortName ++
        ("_" ++ (core' ++ ("_" ++ rest'))))))) :
    arch = arch' ∧ opcodeClass = opcodeClass' ∧ core = core' ∧ rest = rest' := by
  obtain ⟨arches, joined⟩ := word_legible underscore_not_digit (by decide)
    ((String.append_right_inj "cutlass_sm").1 joined)
  obtain ⟨opcodeClasses, joined⟩ := OpcodeClass.shortName_legible joined
  obtain ⟨cores, joined⟩ := append_cancel within within'
    (underscore_outside.append (by decide) rest) (underscore_outside.append (by decide) rest') joined
  exact ⟨arches, opcodeClasses, cores, (String.append_right_inj "_").1 joined⟩

/-- No reduction begins its name like a product or a convolution. -/
theorem heading_ne_reduction {arch arch' : UInt32} {opcodeClass : OpcodeClass} :
    "cutlass_sm" ++ (decimal arch.toNat ++ ("_" ++ (opcodeClass.shortName ++ rest))) ≠
      "cutlass_sm" ++ (decimal arch'.toNat ++ ("_reduce_split_k_" ++ rest')) := by
  intro joined
  have reduction : Outside isDigit "_reduce_split_k_" := by decide
  obtain ⟨-, tails⟩ := word_cancel (underscore_not_digit.append (by decide) _)
    (reduction.append (by decide) _) ((String.append_right_inj "cutlass_sm").1 joined)
  have letters := congrArg (fun text => text.toList.take 2) tails
  cases opcodeClass <;> simp [OpcodeClass.shortName, String.toList_append] at letters

namespace GemmOperation

/-- What the name of a product tells. The core keeps the accumulator and the digits of the
instruction shape together. -/
structure SameName (first second : GemmOperation) : Prop where
  arch : first.arch = second.arch
  opcodeClass : first.tile.instruction.opcodeClass = second.tile.instruction.opcodeClass
  core : first.coreName = second.coreName
  elementA : first.a.element = second.a.element
  elementC : first.c.element = second.c.element
  block : first.tile.block = second.tile.block
  stages : first.tile.stages = second.tile.stages
  layoutA : first.a.layout = second.a.layout
  layoutB : first.b.layout = second.b.layout
  alignmentA : first.a.alignment = second.a.alignment
  activation : first.epilogue.activation = second.epilogue.activation
  epilogueKind : first.epilogue.kind = second.epilogue.kind
  kind : first.kind = second.kind

theorem coreName_within (operation : GemmOperation) : Within isPart operation.coreName :=
  ((MathInstruction.accumulatorLetter_within _).append
    (MathInstruction.shapeName_within _)).append (by decide)

/-- The name from the left. -/
theorem proceduralName_eq (operation : GemmOperation) :
    operation.proceduralName = "cutlass_sm" ++ (decimal operation.arch.toNat ++ ("_" ++
      (operation.tile.instruction.opcodeClass.shortName ++ ("_" ++ (operation.coreName ++ ("_" ++
      (operation.a.element.shortName ++ ("_" ++ (operation.c.element.shortName ++ ("_" ++
      (operation.tile.proceduralName ++ ("_" ++
      (Layout.pairName (operation.a.layout, operation.b.layout) ++ ("_" ++ ("align" ++
      (decimal operation.a.alignment.toNat ++ (operation.epilogue.proceduralSuffix ++
      operation.kind.suffix))))))))))))))))) := by
  unfold proceduralName Layout.pairName
  simp only [String.append_assoc]
  rfl

theorem sameName_of_eq {first second : GemmOperation}
    (same : first.proceduralName = second.proceduralName) : SameName first second := by
  rw [proceduralName_eq, proceduralName_eq] at same
  obtain ⟨arch, opcodeClass, core, same⟩ :=
    heading_cancel first.coreName_within second.coreName_within same
  obtain ⟨elementA, same⟩ := ElementType.shortName_legible same
  obtain ⟨elementC, same⟩ := ElementType.shortName_legible same
  obtain ⟨block, stages, same⟩ := TileDescription.proceduralName_cancel
    (underscore_not_digit.append (by decide) _) (underscore_not_digit.append (by decide) _) same
  obtain ⟨layouts, same⟩ := Layout.pairName_legible ((String.append_right_inj "_").1 same)
  obtain ⟨alignmentA, activation, epilogueKind, kind⟩ := Epilogue.ending_cancel
    GemmKind.suffix_outside GemmKind.ending_injective ((String.append_right_inj "align").1 same)
  obtain ⟨layoutA, layoutB⟩ := Prod.mk.inj layouts
  exact ⟨arch, opcodeClass, core, elementA, elementC, block, stages, layoutA, layoutB, alignmentA,
    activation, epilogueKind, kind⟩

end GemmOperation

/-- The last letters tell the kinds apart. -/
theorem ConvolutionKind.append_shortName_cancel {first second : ConvolutionKind}
    (joined : rest ++ first.shortName = rest' ++ second.shortName) : first = second := by
  have letters := congrArg (fun text => text.toList.reverse.take 5) joined
  cases first <;> cases second <;>
    simp [shortName, String.toList_append] at letters ⊢

namespace ConvolutionOperation

/-- What the name of a convolution tells. -/
structure SameName (first second : ConvolutionOperation) : Prop where
  arch : first.arch = second.arch
  opcodeClass : first.tile.instruction.opcodeClass = second.tile.instruction.opcodeClass
  core : first.coreName = second.coreName
  kind : first.kind = second.kind
  iterator : first.iterator = second.iterator
  elementA : first.a.element = second.a.element
  elementC : first.c.element = second.c.element
  block : first.tile.block = second.tile.block
  stages : first.tile.stages = second.tile.stages
  alignmentA : first.a.alignment = second.a.alignment
  activation : first.epilogue.activation = second.epilogue.activation
  epilogueKind : first.epilogue.kind = second.epilogue.kind
  strideSupport : first.strideSupport = second.strideSupport

theorem coreName_within (operation : ConvolutionOperation) :
    Within isPart operation.coreName := by
  refine ((MathInstruction.accumulatorLetter_within _).append
    (MathInstruction.shapeName_within _)).append ?_
  cases operation.kind <;> decide

/-- The name from the left. -/
theorem proceduralName_eq (operation : ConvolutionOperation) :
    operation.proceduralName = "cutlass_sm" ++ (decimal operation.arch.toNat ++ ("_" ++
      (operation.tile.instruction.opcodeClass.shortName ++ ("_" ++ (operation.coreName ++ ("_" ++
      (operation.iterator.shortName ++ ("_" ++ (operation.a.element.shortName ++ ("_" ++
      (operation.c.element.shortName ++ ("_" ++ (operation.tile.proceduralName ++
      ("_nhwc_align" ++ (decimal operation.a.alignment.toNat ++
      (operation.epilogue.proceduralSuffix ++
      operation.strideSupport.suffix)))))))))))))))) := by
  unfold proceduralName
  simp only [String.append_assoc]

theorem sameName_of_eq {first second : ConvolutionOperation}
    (same : first.proceduralName = second.proceduralName) : SameName first second := by
  rw [proceduralName_eq, proceduralName_eq] at same
  obtain ⟨arch, opcodeClass, core, same⟩ :=
    heading_cancel first.coreName_within second.coreName_within same
  obtain ⟨iterator, same⟩ := IteratorAlgorithm.shortName_cancel same
  obtain ⟨elementA, same⟩ :=
    ElementType.shortName_legible ((String.append_right_inj "_").1 same)
  obtain ⟨elementC, same⟩ := ElementType.shortName_legible same
  have beforeLayout : Outside isDigit "_nhwc_align" := by decide
  obtain ⟨block, stages, same⟩ := TileDescription.proceduralName_cancel
    (beforeLayout.append (by decide) _) (beforeLayout.append (by decide) _) same
  obtain ⟨alignmentA, activation, epilogueKind, strideSupport⟩ :=
    Epilogue.ending_cancel StrideSupport.suffix_outside StrideSupport.ending_injective
      ((String.append_right_inj "_nhwc_align").1 same)
  exact ⟨arch, opcodeClass, core, ConvolutionKind.append_shortName_cancel core, iterator, elementA,
    elementC, block, stages, alignmentA, activation, epilogueKind, strideSupport⟩

end ConvolutionOperation

namespace ReductionOperation

/-- What the name of a reduction tells. -/
structure SameName (first second : ReductionOperation) : Prop where
  arch : first.arch = second.arch
  elementAccumulator : first.elementAccumulator = second.elementAccumulator
  elementOutput : first.epilogue.elementOutput = second.epilogue.elementOutput
  count : first.count = second.count
  shape : first.shape = second.shape
  activation : first.epilogue.activation = second.epilogue.activation
  epilogueKind : first.epilogue.kind = second.epilogue.kind

/-- The name from the left. Strides never end the name of a reduction. -/
theorem proceduralName_eq (operation : ReductionOperation) :
    operation.proceduralName = "cutlass_sm" ++ (decimal operation.arch.toNat ++
      ("_reduce_split_k_" ++ (operation.elementAccumulator.shortName ++ ("_" ++
      (operation.epilogue.elementOutput.shortName ++ ("_" ++ (decimal operation.count.toNat ++
      ("x" ++ (decimal operation.shape.rows.toNat ++ ("x" ++
      (decimal operation.shape.columns.toNat ++ (operation.epilogue.proceduralSuffix ++
      StrideSupport.strided.suffix)))))))))))) := by
  unfold proceduralName
  simp only [String.append_assoc, StrideSupport.suffix, String.append_empty]

theorem sameName_of_eq {first second : ReductionOperation}
    (same : first.proceduralName = second.proceduralName) : SameName first second := by
  rw [proceduralName_eq, proceduralName_eq] at same
  have beforeReduction : Outside isDigit "_reduce_split_k_" := by decide
  have beforeX : Legible "x" fun word : UInt32 => decimal word.toNat :=
    word_legible (by decide) (by decide)
  obtain ⟨arch, same⟩ :=
    word_legible beforeReduction (by decide) ((String.append_right_inj "cutlass_sm").1 same)
  obtain ⟨elementAccumulator, same⟩ := ElementType.shortName_legible same
  obtain ⟨elementOutput, same⟩ := ElementType.shortName_legible same
  obtain ⟨count, same⟩ := beforeX same
  obtain ⟨rows, same⟩ := beforeX same
  obtain ⟨columns, activation, epilogueKind, -⟩ :=
    Epilogue.ending_cancel StrideSupport.suffix_outside StrideSupport.ending_injective same
  refine ⟨arch, elementAccumulator, elementOutput, count, ?_, activation, epilogueKind⟩
  rw [ThreadShape.mk.injEq]
  exact ⟨rows, columns⟩

end ReductionOperation

theorem GemmOperation.proceduralName_ne_convolution (first : GemmOperation)
    (second : ConvolutionOperation) : first.proceduralName ≠ second.proceduralName := by
  intro same
  rw [proceduralName_eq, ConvolutionOperation.proceduralName_eq] at same
  obtain ⟨-, -, core, -⟩ := heading_cancel first.coreName_within second.coreName_within same
  have letters := congrArg (fun text => text.toList.reverse.take 1) core
  cases kind : second.kind <;>
    simp [coreName, ConvolutionOperation.coreName, kind, ConvolutionKind.shortName,
      String.toList_append] at letters

theorem GemmOperation.proceduralName_ne_reduction (first : GemmOperation)
    (second : ReductionOperation) : first.proceduralName ≠ second.proceduralName := by
  rw [proceduralName_eq, ReductionOperation.proceduralName_eq]
  exact heading_ne_reduction

theorem ConvolutionOperation.proceduralName_ne_reduction (first : ConvolutionOperation)
    (second : ReductionOperation) : first.proceduralName ≠ second.proceduralName := by
  rw [proceduralName_eq, ReductionOperation.proceduralName_eq]
  exact heading_ne_reduction

end DeviceKernels
