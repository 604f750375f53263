import DeviceKernels.Operation.Gemm
import DeviceKernels.Proofs.Operation.Checks

namespace DeviceKernels

open Operation Outcome

/-- A leading dimension covers a line of the matrix, and every line begins at an aligned element. -/
structure OperandDescription.Leads (operand : OperandDescription) (leading rows columns : Int) :
    Prop where
  covers : operand.contiguous rows columns ≤ leading
  line : 1 < operand.alignment →
    operand.contiguous rows columns % (operand.alignment.toNat : Int) = 0
  leading : 1 < operand.alignment → leading % (operand.alignment.toNat : Int) = 0

/-- A count between one and one. -/
theorem Operation.eq_one_of_toInt {word : Int32} (least : 1 ≤ word.toInt) (most : word.toInt ≤ 1) :
    word = 1 := by
  rw [← Int32.toInt_inj, Int32.toInt_one]
  omega

namespace GemmOperation

variable {operation : GemmOperation} {arguments : GemmArguments}

theorem checkLeading_ok {operand : OperandDescription} {what : String} {leading : Int64}
    {rows columns : Int} : checkLeading operand what leading rows columns = .ok () ↔
      operand.Leads leading.toInt rows columns := by
  unfold checkLeading
  simp only [checked_iff, checkLength_ok, checkAligned_ok]
  exact ⟨fun ⟨covers, line, aligned⟩ => ⟨covers, line, aligned⟩,
    fun ⟨covers, line, aligned⟩ => ⟨covers, line, aligned⟩⟩

/-- Slices of the depth belong to kernels that do not slice it themselves, and every slice has a
tile. -/
theorem checkSlices_ok : operation.checkSlices arguments = .ok () ↔
    (1 < arguments.splitKSlices.toInt → operation.kind ≠ .streamK ∧ operation.tile.block.k ≠ 0 ∧
      arguments.splitKSlices.toInt ≤
        Number.ceilDiv arguments.problem.k.toInt operation.tile.block.k.toNat) := by
  unfold checkSlices
  split
  case isTrue several =>
    rw [Int32.lt_iff_toInt_lt, Int32.toInt_one] at several
    rw [checked_iff, require_ok, bound_iff]
    simp [several, tilesCovering_ok, require_ok, and_assoc]
  case isFalse single =>
    rw [Int32.lt_iff_toInt_lt, Int32.toInt_one] at single
    simp [single]
    rfl

/-- The conditions that arguments must meet, as conditions on numbers. -/
structure Accepts (operation : GemmOperation) (arguments : GemmArguments) : Prop where
  single : operation.kind ≠ .grouped
  rows : 0 < arguments.problem.m.toInt
  columns : 0 < arguments.problem.n.toInt
  depth : 0 < arguments.problem.k.toInt
  batches : 1 ≤ arguments.batchCount.toInt
  slices : 1 ≤ arguments.splitKSlices.toInt
  either : arguments.batchCount.toInt ≤ 1 ∨ arguments.splitKSlices.toInt ≤ 1
  sliced : 1 < arguments.splitKSlices.toInt → operation.kind ≠ .streamK ∧
    operation.tile.block.k ≠ 0 ∧ arguments.splitKSlices.toInt ≤
      Number.ceilDiv arguments.problem.k.toInt operation.tile.block.k.toNat
  a : operation.a.Leads arguments.leadingA.toInt arguments.problem.m.toInt arguments.problem.k.toInt
  b : operation.b.Leads arguments.leadingB.toInt arguments.problem.k.toInt arguments.problem.n.toInt
  c : operation.c.Leads arguments.leadingC.toInt arguments.problem.m.toInt arguments.problem.n.toInt
  d : operation.c.Leads arguments.leadingD.toInt arguments.problem.m.toInt arguments.problem.n.toInt
  bound : arguments.pointerA.isNull = false ∧ arguments.pointerB.isNull = false ∧
    arguments.pointerD.isNull = false
  source : arguments.beta.isZero = true ∨ arguments.pointerC.isNull = false

theorem validateArguments_ok :
    operation.validateArguments arguments = .ok () ↔ operation.Accepts arguments := by
  have atLeast (word : Int32) : 1 ≤ word ↔ 1 ≤ word.toInt := by
    rw [Int32.le_iff_toInt_le, Int32.toInt_one]
  have atMost (word : Int32) : word ≤ 1 ↔ word.toInt ≤ 1 := by
    rw [Int32.le_iff_toInt_le, Int32.toInt_one]
  have positive (word : Int32) : 0 < word ↔ 0 < word.toInt := by
    rw [Int32.lt_iff_toInt_lt, Int32.toInt_zero]
  unfold validateArguments
  simp only [checked_iff, require_ok, checkSlices_ok, checkLeading_ok]
  simp only [GemmExtent.isEmpty, bne_iff_ne, Bool.not_eq_true', Bool.or_eq_false_iff,
    decide_eq_false_iff_not, Int32.not_le, Bool.and_eq_true, decide_eq_true_eq, Bool.or_eq_true,
    atLeast, atMost, positive]
  constructor
  · rintro ⟨single, ⟨⟨rows, columns⟩, depth⟩, ⟨batches, slices⟩, either, sliced, a, b, c, d,
      ⟨⟨boundA, boundB⟩, boundD⟩, source⟩
    exact ⟨single, rows, columns, depth, batches, slices, either, sliced, a, b, c, d,
      ⟨boundA, boundB, boundD⟩, source⟩
  · rintro ⟨single, rows, columns, depth, batches, slices, either, sliced, a, b, c, d,
      ⟨boundA, boundB, boundD⟩, source⟩
    exact ⟨single, ⟨⟨rows, columns⟩, depth⟩, ⟨batches, slices⟩, either, sliced, a, b, c, d,
      ⟨⟨boundA, boundB⟩, boundD⟩, source⟩

end GemmOperation

end DeviceKernels
