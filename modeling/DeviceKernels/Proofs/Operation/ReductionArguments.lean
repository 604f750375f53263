import DeviceKernels.Operation.Reduction
import DeviceKernels.Proofs.Operation.Checks

namespace DeviceKernels

open Number Operation Outcome

/-- An access has an element. -/
theorem Operation.access_ne_zero (elements : UInt32) : max elements 1 ≠ 0 := by
  change (if elements ≤ 1 then 1 else elements : UInt32) ≠ 0
  split
  case isTrue => decide
  case isFalse many =>
    rintro rfl
    exact many (by decide)

namespace ReductionOperation

variable {operation : ReductionOperation} {arguments : ReductionArguments}

/-- A leading dimension covers the columns, and every row begins at an aligned element. -/
structure Leads (operation : ReductionOperation) (leading columns : Int) : Prop where
  covers : columns ≤ leading
  aligned : 1 < operation.count → leading % (operation.count.toNat : Int) = 0

theorem checkLeading_ok {what : String} {leading : Int64} {columns : Int} :
    operation.checkLeading what leading columns = .ok () ↔
      operation.Leads leading.toInt columns := by
  unfold checkLeading
  rw [checked_iff, checkLength_ok, checkAligned_ok]
  exact ⟨fun ⟨covers, aligned⟩ => ⟨covers, aligned⟩, fun ⟨covers, aligned⟩ => ⟨covers, aligned⟩⟩

/-- The conditions that arguments must meet, as conditions on numbers. -/
structure Accepts (operation : ReductionOperation) (arguments : ReductionArguments) : Prop where
  rows : 0 < arguments.problem.row.toInt
  columns : 0 < arguments.problem.column.toInt
  partitions : 1 ≤ arguments.partitions.toInt
  aligned : 1 < operation.count →
    arguments.problem.column.toInt % (operation.count.toNat : Int) = 0
  workspace : operation.Leads arguments.leadingWorkspace.toInt arguments.problem.column.toInt
  destination : operation.Leads arguments.leadingDestination.toInt arguments.problem.column.toInt
  source : operation.Leads arguments.leadingSource.toInt arguments.problem.column.toInt
  apart : 1 < arguments.partitions.toInt → arguments.problem.row.toInt *
    arguments.leadingWorkspace.toInt ≤ arguments.partitionStride.toInt
  bound : arguments.workspace.isNull = false ∧ arguments.destination.isNull = false
  added : arguments.beta.isZero = true ∨ arguments.source.isNull = false

/-- Several partitions lie apart, and the program does not stop before it knows. -/
theorem checkStride_ok : checkStride arguments = .ok () ↔
    (1 < arguments.partitions.toInt →
      IsWord64 (arguments.problem.row.toInt * arguments.leadingWorkspace.toInt) ∧
        arguments.problem.row.toInt * arguments.leadingWorkspace.toInt ≤
          arguments.partitionStride.toInt) := by
  have several : 1 < arguments.partitions ↔ 1 < arguments.partitions.toInt := by
    rw [Int32.lt_iff_toInt_lt, Int32.toInt_one]
  rw [← several, checkStride]
  split
  case isFalse one => exact ⟨fun _ many => absurd many one, fun _ => rfl⟩
  case isTrue many =>
    rw [bound_iff, imp_iff_right many]
    constructor
    · rintro ⟨least, word, long⟩
      have exact := Arithmetic.checked_word?_eq_some.mp (computed_ok.mp word)
      rw [← exact]
      exact ⟨isWord64_toInt least, checkLength_ok.mp long⟩
    · rintro ⟨word, long⟩
      refine ⟨_, computed_ok.mpr (Arithmetic.word?_of_isWord64 _ word), ?_⟩
      rw [toInt_ofInt_of_isWord64 word]
      exact checkLength_ok.mpr long

/-- The least stride of accepted arguments is a word, as it does not exceed their stride. -/
theorem Accepts.isWord64_least (numbers : operation.Accepts arguments)
    (several : 1 < arguments.partitions.toInt) :
    IsWord64 (arguments.problem.row.toInt * arguments.leadingWorkspace.toInt) := by
  have stride := numbers.apart several
  have leading := numbers.columns.trans_le numbers.workspace.covers
  have positive := Int.mul_pos numbers.rows leading
  have least : Int64.minValue.toInt ≤ 0 := by decide
  exact ⟨least.trans positive.le, stride.trans arguments.partitionStride.toInt_le⟩

theorem validateArguments_ok :
    operation.validateArguments arguments = .ok () ↔ operation.Accepts arguments := by
  have some : 1 ≤ arguments.partitions ↔ 1 ≤ arguments.partitions.toInt := by
    rw [Int32.le_iff_toInt_le, Int32.toInt_one]
  unfold validateArguments
  simp only [checked_iff, require_ok, checkLeading_ok, checkAligned_ok, checkStride_ok]
  simp only [Bool.and_eq_true, Bool.or_eq_true, decide_eq_true_eq, Bool.not_eq_true', some]
  constructor
  · rintro ⟨⟨rows, columns⟩, partitions, aligned, workspace, destination, source, apart, bound,
      added⟩
    exact ⟨rows, columns, partitions, aligned, workspace, destination, source,
      fun several => (apart several).2, bound, added⟩
  · intro numbers
    obtain ⟨rows, columns, partitions, aligned, workspace, destination, source, apart, bound,
      added⟩ := id numbers
    exact ⟨⟨rows, columns⟩, partitions, aligned, workspace, destination, source,
      fun several => ⟨numbers.isWord64_least several, apart several⟩, bound, added⟩

end ReductionOperation

end DeviceKernels
