import DeviceKernels.Operation.Convolution
import DeviceKernels.Proofs.Extent.Convolution
import DeviceKernels.Proofs.Operation.Checks

namespace DeviceKernels.ConvolutionOperation

open Operation Outcome

variable {operation : ConvolutionOperation} {arguments : ConvolutionArguments}

/-- An access to an operand divides its channels. -/
def Accesses (operand : OperandDescription) (channels : Int32) : Prop :=
  1 < operand.alignment → channels.toInt % (operand.alignment.toNat : Int) = 0

theorem checkFixedChannels_ok {problem : ConvolutionProblem} :
    operation.checkFixedChannels problem = .ok () ↔
      (operation.iterator = .fixedChannels → problem.c.toUInt32 = operation.a.alignment) := by
  unfold checkFixedChannels
  rw [refused_iff]
  simp

/-- A parallel run belongs to a kernel that stores its accumulators. -/
theorem checkSplitK_ok : operation.checkSplitK arguments = .ok () ↔
    ∀ workspace, arguments.splitK = .parallel workspace →
      operation.c.element = operation.elementAccumulator ∧ workspace.isNull = false := by
  unfold checkSplitK
  cases arguments.splitK with
  | serial => simp
  | parallel workspace =>
      dsimp only
      rw [checked_iff, require_ok, require_ok]
      simp

/-- The conditions that arguments must meet, as conditions on numbers. -/
structure Accepts (operation : ConvolutionOperation) (arguments : ConvolutionArguments) : Prop where
  valid : arguments.problem.Valid
  stride : operation.strideSupport = .unity → arguments.problem.hasUnitStride = true
  a : Accesses operation.a (operation.channels arguments.problem).1
  b : Accesses operation.b (operation.channels arguments.problem).2.1
  c : Accesses operation.c (operation.channels arguments.problem).2.2
  fixed : operation.iterator = .fixedChannels →
    arguments.problem.c.toUInt32 = operation.a.alignment
  tiled : operation.tile.block.k ≠ 0
  sliced : arguments.problem.splitKSlices.toInt ≤
    Number.ceilDiv (operation.implicitGemm arguments.problem).k.toInt operation.tile.block.k.toNat
  bound : arguments.pointerA.isNull = false ∧ arguments.pointerB.isNull = false ∧
    arguments.pointerD.isNull = false
  source : arguments.beta.isZero = true ∨ arguments.pointerC.isNull = false
  split : ∀ workspace, arguments.splitK = .parallel workspace →
    operation.c.element = operation.elementAccumulator ∧ workspace.isNull = false

theorem validateArguments_ok :
    operation.validateArguments arguments = .ok () ↔ operation.Accepts arguments := by
  unfold validateArguments
  dsimp only
  simp only [checked_iff, mapError_ok, ConvolutionProblem.validate_ok, checkFixedChannels_ok]
  rw [bound_iff]
  simp only [checked_iff, require_ok, checkAligned_ok, checkSplitK_ok, tilesCovering_ok]
  simp only [Bool.or_eq_true, bne_iff_ne, Bool.and_eq_true, Bool.not_eq_true', decide_eq_true_eq,
    ← imp_iff_not_or]
  constructor
  · rintro ⟨valid, stride, a, b, c, fixed, -, ⟨tiled, rfl⟩, sliced, ⟨⟨boundA, boundB⟩, boundD⟩,
      source, split⟩
    exact ⟨valid, stride, a, b, c, fixed, tiled, sliced, ⟨boundA, boundB, boundD⟩, source, split⟩
  · rintro ⟨valid, stride, a, b, c, fixed, tiled, sliced, ⟨boundA, boundB, boundD⟩, source, split⟩
    exact ⟨valid, stride, a, b, c, fixed, _, ⟨tiled, rfl⟩, sliced, ⟨⟨boundA, boundB⟩, boundD⟩,
      source, split⟩

end DeviceKernels.ConvolutionOperation
