import DeviceKernels.Proofs.Operation.Checks
import DeviceKernels.Proofs.Operation.Modules
import DeviceKernels.Proofs.Operation.Sources

/-
The operations that the constructors give are told apart by their procedural names up to the
settings that a name leaves out; of two operations that differ in such a setting alone, a module
keeps the source of the first.
-/

namespace DeviceKernels

open Operation Outcome

namespace GemmOperation

theorem create_checked {kind : GemmKind} {arch : UInt32} {tile : TileDescription}
    {a b c : OperandDescription} {epilogue : Epilogue} {operation : GemmOperation}
    (created : create kind arch tile a b c epilogue = .ok operation) :
    checkTile operation.tile = .ok () ∧
      operation.epilogue.elementOutput = operation.c.element := by
  unfold create at created
  obtain ⟨tiling, created⟩ := of_checked created
  obtain ⟨-, created⟩ := of_checked created
  obtain ⟨-, created⟩ := of_checked created
  obtain ⟨-, created⟩ := of_checked created
  obtain ⟨output, created⟩ := of_checked created
  cases created
  exact ⟨tiling, (eq_of_beq (of_requireDescriptor output)).symm⟩

theorem withSwizzle_eq {operation swizzled : GemmOperation} {swizzle : Swizzle}
    (accepted : operation.withSwizzle swizzle = .ok swizzled) :
    swizzled = { operation with swizzle } := by
  unfold withSwizzle at accepted
  obtain ⟨-, accepted⟩ := of_checked accepted
  exact (Except.ok.inj accepted).symm

/-- The products that the constructors give. -/
inductive Made : GemmOperation → Prop
  | create {kind : GemmKind} {arch : UInt32} {tile : TileDescription}
      {a b c : OperandDescription} {epilogue : Epilogue} {operation : GemmOperation}
      (created : create kind arch tile a b c epilogue = .ok operation) : Made operation
  | withSwizzle {operation swizzled : GemmOperation} {swizzle : Swizzle} (made : Made operation)
      (accepted : operation.withSwizzle swizzle = .ok swizzled) : Made swizzled

theorem made_of_catalog {arch : UInt32} {element : ElementType} {layouts : Layout × Layout}
    {kind : GemmKind} {operation : GemmOperation}
    (found : Catalog.gemm arch element layouts kind = .ok operation) : Made operation := by
  unfold Catalog.gemm at found
  cases tiling : Catalog.tileFor element with
  | error fault =>
      rw [tiling] at found
      cases found
  | ok tile =>
      rw [tiling] at found
      exact .create found

theorem Made.output {operation : GemmOperation} (made : Made operation) :
    operation.epilogue.elementOutput = operation.c.element := by
  induction made with
  | create created => exact (create_checked created).2
  | withSwizzle _ accepted ih =>
      rw [withSwizzle_eq accepted]
      exact ih

theorem Made.tile {operation : GemmOperation} (made : Made operation) :
    checkTile operation.tile = .ok () := by
  induction made with
  | create created => exact (create_checked created).1
  | withSwizzle _ accepted ih =>
      rw [withSwizzle_eq accepted]
      exact ih

theorem Made.emit_eq_iff {first second : GemmOperation} (made : Made first) (made' : Made second)
    (same : first.proceduralName = second.proceduralName) :
    first.emit = second.emit ↔ first.unnamed = second.unnamed := by
  refine GemmOperation.emit_eq_iff same ?_
  rw [made.output, made'.output, (sameName_of_eq same).elementC]

/-- A swizzle is no part of the name. -/
theorem withSwizzle_proceduralName {operation swizzled : GemmOperation} {swizzle : Swizzle}
    (accepted : operation.withSwizzle swizzle = .ok swizzled) :
    swizzled.proceduralName = operation.proceduralName := by
  rw [withSwizzle_eq accepted]
  rfl

/-- A new swizzle changes the source of every product that is not grouped. -/
theorem withSwizzle_emit_ne {operation swizzled : GemmOperation} {swizzle : Swizzle}
    (accepted : operation.withSwizzle swizzle = .ok swizzled)
    (single : operation.kind ≠ .grouped) (changed : swizzle ≠ operation.swizzle) :
    operation.emit ≠ swizzled.emit := by
  have same := withSwizzle_proceduralName accepted
  rw [withSwizzle_eq accepted] at same ⊢
  rw [Ne, GemmOperation.emit_eq_iff same.symm rfl, unnamed, unnamed, TiledRest.mk.injEq]
  simp [single, changed.symm]

/-- A standard product and the same product with another swizzle share their name but not their
source, and a module drops the second of them. -/
theorem catalog_swizzles_share_name : ∃ first second : GemmOperation,
    Catalog.gemm 80 .f16 Catalog.transposed .universal = .ok first ∧
      first.withSwizzle .identity2 = .ok second ∧
      first.proceduralName = second.proceduralName ∧ first.emit ≠ second.emit ∧
      ModuleSource.distinct [] [first.kernel, second.kernel] = [first.kernel] := by
  obtain ⟨first, created⟩ : ∃ first,
      Catalog.gemm 80 .f16 Catalog.transposed .universal = .ok first := ⟨_, rfl⟩
  obtain ⟨single, swizzle⟩ : first.kind ≠ .grouped ∧ first.swizzle = .identity1 := by
    cases created
    decide
  obtain ⟨second, accepted⟩ : ∃ second, first.withSwizzle .identity2 = .ok second := by
    cases created
    exact ⟨_, rfl⟩
  have same := withSwizzle_proceduralName accepted
  refine ⟨first, second, created, accepted, same.symm,
    withSwizzle_emit_ne accepted single (by simp [swizzle]), ?_⟩
  have named : second.kernel.name = first.kernel.name := same
  simp [ModuleSource.distinct, named]

end GemmOperation

namespace ConvolutionOperation

/-- All operands are images, and the epilogue writes the type of the output. -/
structure Consistent (operation : ConvolutionOperation) : Prop where
  layoutA : operation.a.layout = .tensorNhwc
  layoutB : operation.b.layout = .tensorNhwc
  output : operation.epilogue.elementOutput = operation.c.element

theorem layout_of_checkImage {name : String} {operand : OperandDescription}
    (passed : checkImage name operand = .ok ()) : operand.layout = .tensorNhwc := by
  unfold checkImage at passed
  exact eq_of_beq (of_requireDescriptor (of_checked passed).2)

/-- An access of a checked operand has 128 bits at most. -/
theorem alignment_le_of_checkImage {name : String} {operand : OperandDescription}
    (passed : checkImage name operand = .ok ()) : operand.alignment.toNat ≤ 128 := by
  obtain ⟨checked, -⟩ := of_checked passed
  have valid : operand.validate = .ok () := mapError_ok.mp checked
  unfold OperandDescription.validate at valid
  obtain ⟨-, valid⟩ := refused_iff.mp valid
  split at valid
  case h_1 => cases valid
  case h_2 accessBits kept =>
    have narrow : accessBits ≤ 128 := UInt32.not_lt.mp (refused_iff.mp valid).1
    have bits : (UInt32.ofNat operand.element.bits).toNat = operand.element.bits := by
      cases operand.element <;> rfl
    calc operand.alignment.toNat
      _ ≤ operand.alignment.toNat * operand.element.bits :=
        Nat.le_mul_of_pos_right _ operand.element.bitsPositive
      _ = accessBits.toNat := by rw [Number.checked32_eq_some.mp kept, bits]
      _ ≤ 128 := UInt32.le_iff_toNat_le.mp narrow

theorem create_checked {kind : ConvolutionKind} {iterator : IteratorAlgorithm} {arch : UInt32}
    {tile : TileDescription} {a b c : OperandDescription} {epilogue : Epilogue}
    {operation : ConvolutionOperation}
    (created : create kind iterator arch tile a b c epilogue = .ok operation) :
    checkTile operation.tile = .ok () ∧ operation.Consistent ∧
      operation.c.alignment.toNat ≤ 128 := by
  unfold create at created
  obtain ⟨tiling, created⟩ := of_checked created
  obtain ⟨imageA, created⟩ := of_checked created
  obtain ⟨imageB, created⟩ := of_checked created
  obtain ⟨imageC, created⟩ := of_checked created
  obtain ⟨output, created⟩ := of_checked created
  obtain ⟨-, created⟩ := of_checked created
  cases created
  exact ⟨tiling, ⟨layout_of_checkImage imageA, layout_of_checkImage imageB,
    (eq_of_beq (of_requireDescriptor output)).symm⟩, alignment_le_of_checkImage imageC⟩

theorem withSwizzle_eq {operation swizzled : ConvolutionOperation} {swizzle : Swizzle}
    (accepted : operation.withSwizzle swizzle = .ok swizzled) :
    swizzled = { operation with swizzle } := by
  unfold withSwizzle at accepted
  obtain ⟨-, accepted⟩ := of_checked accepted
  exact (Except.ok.inj accepted).symm

/-- The accesses of a partial kernel: as wide as 128 bits of accumulators, or as they can be. -/
theorem toNat_partialAccumulation_alignment (operation : ConvolutionOperation) :
    operation.partialAccumulation.c.alignment.toNat =
      max (min (128 / operation.elementAccumulator.bits) operation.storeReach) 1 := by
  have few : 128 / operation.elementAccumulator.bits ≤ 128 := Nat.div_le_self _ _
  refine UInt32.toNat_ofNat_of_lt' ?_
  rw [UInt32.size]
  omega

/-- The convolutions that the constructors give, and their partial kernels. -/
inductive Made : ConvolutionOperation → Prop
  | create {kind : ConvolutionKind} {iterator : IteratorAlgorithm} {arch : UInt32}
      {tile : TileDescription} {a b c : OperandDescription} {epilogue : Epilogue}
      {operation : ConvolutionOperation}
      (created : create kind iterator arch tile a b c epilogue = .ok operation) : Made operation
  | withSwizzle {operation swizzled : ConvolutionOperation} {swizzle : Swizzle}
      (made : Made operation) (accepted : operation.withSwizzle swizzle = .ok swizzled) :
      Made swizzled
  | withStrideSupport {operation : ConvolutionOperation} (strideSupport : StrideSupport)
      (made : Made operation) : Made (operation.withStrideSupport strideSupport)
  | partialAccumulation {operation : ConvolutionOperation} (made : Made operation) :
      Made operation.partialAccumulation

theorem made_of_catalog {arch : UInt32} {element : ElementType} {kind : ConvolutionKind}
    {operation : ConvolutionOperation}
    (found : Catalog.convolution arch element kind = .ok operation) : Made operation := by
  obtain ⟨tiling, -, created⟩ := bound_iff.mp found
  exact .create created

theorem Made.consistent {operation : ConvolutionOperation} (made : Made operation) :
    operation.Consistent := by
  induction made with
  | create created => exact (create_checked created).2.1
  | withSwizzle _ accepted ih =>
      rw [withSwizzle_eq accepted]
      exact ⟨ih.layoutA, ih.layoutB, ih.output⟩
  | withStrideSupport _ _ ih => exact ⟨ih.layoutA, ih.layoutB, ih.output⟩
  | partialAccumulation _ ih => exact ⟨ih.layoutA, ih.layoutB, rfl⟩

theorem Made.tile {operation : ConvolutionOperation} (made : Made operation) :
    checkTile operation.tile = .ok () := by
  induction made with
  | create created => exact (create_checked created).1
  | withSwizzle _ accepted ih =>
      rw [withSwizzle_eq accepted]
      exact ih
  | withStrideSupport _ _ ih => exact ih
  | partialAccumulation _ ih => exact ih

theorem Made.alignment_le {operation : ConvolutionOperation} (made : Made operation) :
    operation.c.alignment.toNat ≤ 128 := by
  induction made with
  | create created => exact (create_checked created).2.2
  | withSwizzle _ accepted ih =>
      rw [withSwizzle_eq accepted]
      exact ih
  | withStrideSupport _ _ ih => exact ih
  | @partialAccumulation operation _ _ =>
      have few : 128 / operation.elementAccumulator.bits ≤ 128 := Nat.div_le_self _ _
      rw [toNat_partialAccumulation_alignment]
      omega

/-- The program makes the partial kernel of a checked convolution. -/
theorem Made.storeReach_lt {operation : ConvolutionOperation} (made : Made operation) :
    operation.storeReach < 2 ^ 32 := by
  have narrow := made.alignment_le
  have most : (max operation.c.alignment 1).toNat ≤ 128 := by
    change (if operation.c.alignment ≤ 1 then 1 else operation.c.alignment : UInt32).toNat ≤ 128
    split
    case isTrue => decide
    case isFalse => exact narrow
  unfold storeReach
  omega

theorem Made.emit_eq_iff {first second : ConvolutionOperation} (made : Made first)
    (made' : Made second) (same : first.proceduralName = second.proceduralName) :
    first.emit = second.emit ↔ first.unnamed = second.unnamed := by
  have consistent := made.consistent
  have consistent' := made'.consistent
  refine ConvolutionOperation.emit_eq_iff same ?_ ?_ ?_
  · rw [consistent.layoutA, consistent'.layoutA]
  · rw [consistent.layoutB, consistent'.layoutB]
  · rw [consistent.output, consistent'.output, (sameName_of_eq same).elementC]

/-- A convolution that writes plain accumulators has the name of its own partial kernel. -/
theorem partialAccumulation_proceduralName {operation : ConvolutionOperation}
    (accumulates : operation.c.element = operation.elementAccumulator)
    (plain : operation.epilogue.proceduralSuffix = "") :
    operation.partialAccumulation.proceduralName = operation.proceduralName := by
  rw [proceduralName_eq, proceduralName_eq, plain, accumulates]
  rfl

/-- The two kernels differ in the width of their accesses, which the name leaves out. -/
theorem Made.partialAccumulation_emit_ne {operation : ConvolutionOperation}
    (made : Made operation) (accumulates : operation.c.element = operation.elementAccumulator)
    (plain : operation.epilogue.proceduralSuffix = "")
    (width : operation.partialAccumulation.epilogue.elementsPerAccess ≠
      operation.epilogue.elementsPerAccess) :
    operation.partialAccumulation.emit ≠ operation.emit := by
  have same := partialAccumulation_proceduralName accumulates plain
  rw [Ne, made.partialAccumulation.emit_eq_iff made same]
  intro settings
  exact width (congrArg (fun rest => rest.epilogue.elementsPerAccess) settings)

end ConvolutionOperation

namespace Operation

/-- The settings of an operation that its source tells and its name does not. -/
inductive Unnamed where
  | tiled (rest : TiledRest)
  | reduction (rest : EpilogueRest)
  | custom
  deriving DecidableEq

def unnamed : Operation → Unnamed
  | gemm operation => .tiled operation.unnamed
  | convolution operation => .tiled operation.unnamed
  | reduction operation => .reduction operation.epilogue.unnamed
  | custom _ => .custom

/-- The operations that the constructors give. -/
inductive Made : Operation → Prop
  | gemm {operation : GemmOperation} (made : operation.Made) : Made (.gemm operation)
  | convolution {operation : ConvolutionOperation} (made : operation.Made) :
      Made (.convolution operation)
  | reduction (arch : UInt32) (elementAccumulator : ElementType) (epilogue : Epilogue) :
      Made (.reduction (.create arch elementAccumulator epilogue))

/-- Operations of one name are of one family and have the same source exactly if they agree in the
settings that the name leaves out. -/
theorem Made.source_eq_iff {first second : Operation} (made : Made first) (made' : Made second)
    (same : first.toKernel.name = second.toKernel.name) :
    first.toKernel.source = second.toKernel.source ↔ first.unnamed = second.unnamed := by
  cases made with
  | gemm made =>
      cases made' with
      | gemm made' =>
          exact (made.emit_eq_iff made' same).trans (by simp [unnamed])
      | convolution _ => exact absurd same (GemmOperation.proceduralName_ne_convolution _ _)
      | reduction => exact absurd same (GemmOperation.proceduralName_ne_reduction _ _)
  | convolution made =>
      cases made' with
      | gemm _ => exact absurd same.symm (GemmOperation.proceduralName_ne_convolution _ _)
      | convolution made' =>
          exact (made.emit_eq_iff made' same).trans (by simp [unnamed])
      | reduction => exact absurd same (ConvolutionOperation.proceduralName_ne_reduction _ _)
  | reduction =>
      cases made' with
      | gemm _ => exact absurd same.symm (GemmOperation.proceduralName_ne_reduction _ _)
      | convolution _ =>
          exact absurd same.symm (ConvolutionOperation.proceduralName_ne_reduction _ _)
      | reduction => exact (ReductionOperation.emit_eq_iff same).trans (by simp [unnamed])

end Operation

namespace Operation

/-- In a list of constructed operations, two operations of one name have the same source exactly if
they agree in the settings that the name leaves out. A module keeps an operation of every name, so
it defines the kernel of every operation that agrees with all operations of its name. -/
theorem distinct_identifies {operations : List Operation}
    (made : ∀ operation ∈ operations, Made operation) :
    (∀ first ∈ operations, ∀ second ∈ operations,
      first.toKernel.name = second.toKernel.name →
        (first.toKernel.source = second.toKernel.source ↔ first.unnamed = second.unnamed)) ∧
    ∀ operation ∈ operations, ∃ kept ∈ operations,
      kept.toKernel ∈ ModuleSource.distinct [] (operations.map toKernel) ∧
        kept.toKernel.name = operation.toKernel.name ∧
        (kept.toKernel.source = operation.toKernel.source ↔
          kept.unnamed = operation.unnamed) := by
  refine ⟨fun first member second member' same =>
    (made first member).source_eq_iff (made second member') same, ?_⟩
  intro operation member
  obtain ⟨kernel, found, same⟩ :=
    ModuleSource.distinct_covers (List.mem_map_of_mem member) List.not_mem_nil
  obtain ⟨kept, keptMember, rfl⟩ :=
    List.mem_map.1 (ModuleSource.distinct_subset [] (operations.map toKernel) found)
  exact ⟨kept, keptMember, found, same,
    (made kept keptMember).source_eq_iff (made operation member) same⟩

theorem distinct_identifies_catalog : ∃ first second : GemmOperation,
    Catalog.gemm 80 .f16 Catalog.transposed .universal = .ok first ∧
      first.withSwizzle .identity2 = .ok second ∧
      (∀ operation ∈ [gemm first, gemm second], Made operation) ∧
      (first.emit = second.emit ↔ first.unnamed = second.unnamed) ∧
      ∃ kept ∈ [gemm first, gemm second],
        kept.toKernel ∈ ModuleSource.distinct [] [first.kernel, second.kernel] ∧
          kept.toKernel.name = second.proceduralName ∧
          (kept.toKernel.source = second.emit ↔ kept.unnamed = .tiled second.unnamed) := by
  obtain ⟨first, created⟩ : ∃ first,
      Catalog.gemm 80 .f16 Catalog.transposed .universal = .ok first := ⟨_, rfl⟩
  obtain ⟨second, accepted⟩ : ∃ second, first.withSwizzle .identity2 = .ok second := by
    cases created
    exact ⟨_, rfl⟩
  have madeFirst := GemmOperation.made_of_catalog created
  have made : ∀ operation ∈ [gemm first, gemm second], Made operation := by
    simpa using ⟨Made.gemm madeFirst, Made.gemm (.withSwizzle madeFirst accepted)⟩
  obtain ⟨pairs, covered⟩ := distinct_identifies made
  refine ⟨first, second, created, accepted, made, ?_, covered (gemm second) (by simp)⟩
  have iff := pairs (gemm first) (by simp) (gemm second) (by simp)
    (GemmOperation.withSwizzle_proceduralName accepted).symm
  simpa [unnamed, toKernel, GemmOperation.kernel] using iff

end Operation

end DeviceKernels
