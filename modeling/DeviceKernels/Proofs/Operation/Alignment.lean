import DeviceKernels.Proofs.Operation.Batches

/-
Where the lines of the matrices of a product begin. The line of a matrix is what lies side by
side: a row or a column.
-/

namespace DeviceKernels

open Number Operation Outcome

namespace OperandDescription

variable {operand : OperandDescription}

/-- An operand that a product can have: it has accesses, and rows or columns. -/
structure IsMatrix (operand : OperandDescription) : Prop where
  access : operand.alignment ≠ 0
  matrix : operand.layout ≠ .tensorNhwc

/-- Whole accesses make up the rows of a matrix by rows and the columns of a matrix by columns. -/
structure WholeLines (operand : OperandDescription) (rows columns : Int) : Prop where
  row : operand.layout = .rowMajor → (operand.alignment.toNat : Int) ∣ columns
  column : operand.layout = .columnMajor → (operand.alignment.toNat : Int) ∣ rows

/-- The contiguous extent of a matrix is the length of its lines. -/
theorem IsMatrix.wholeLines_iff (checked : operand.IsMatrix) {rows columns : Int} :
    operand.WholeLines rows columns ↔
      (operand.alignment.toNat : Int) ∣ operand.contiguous rows columns := by
  have matrix := checked.matrix
  unfold contiguous
  cases layout : operand.layout with
  | rowMajor =>
      exact ⟨fun whole => whole.row layout, fun whole => ⟨fun _ => whole, by simp [layout]⟩⟩
  | columnMajor =>
      exact ⟨fun whole => whole.column layout, fun whole => ⟨by simp [layout], fun _ => whole⟩⟩
  | tensorNhwc => exact absurd layout matrix

/-- A dense line is as long as the words of its extents say. -/
theorem toInt_leadingDimension (operand : OperandDescription) (rows columns : Int32) :
    (operand.layout.leadingDimension rows.toInt64 columns.toInt64).toInt =
      operand.contiguous rows.toInt columns.toInt := by
  unfold contiguous
  cases operand.layout <;> exact Int32.toInt_toInt64 _

/-- The leading dimension of a dense matrix fits it exactly if its lines are whole accesses. -/
theorem IsMatrix.leads_dense (checked : operand.IsMatrix) (rows columns : Int32) :
    operand.Leads (operand.layout.leadingDimension rows.toInt64 columns.toInt64).toInt rows.toInt
      columns.toInt ↔ operand.WholeLines rows.toInt columns.toInt := by
  rw [toInt_leadingDimension, checked.wholeLines_iff, ← aligned_iff_dvd checked.access]
  exact ⟨fun leads => leads.line, fun aligned => ⟨Int.le_refl _, aligned, aligned⟩⟩

/-- A line divides a dense matrix. -/
theorem contiguous_dvd_mul (operand : OperandDescription) (rows columns : Int) :
    operand.contiguous rows columns ∣ rows * columns := by
  unfold contiguous
  cases operand.layout with
  | rowMajor => exact Int.dvd_mul_left rows columns
  | columnMajor => exact Int.dvd_mul_right rows columns
  | tensorNhwc => exact Int.dvd_mul_left rows columns

/-- All lines of all members begin at whole accesses if the first two lines of a member do and
members are a dense matrix apart. -/
theorem IsMatrix.dvd_lineStart (checked : operand.IsMatrix) {leading rows columns : Int}
    (leads : operand.Leads leading rows columns) (batch line : Nat) :
    (operand.alignment.toNat : Int) ∣ batch * (rows * columns) + line * leading := by
  have dense : (operand.alignment.toNat : Int) ∣ rows * columns :=
    ((aligned_iff_dvd checked.access).mp leads.line).trans
      (operand.contiguous_dvd_mul rows columns)
  have apart : (operand.alignment.toNat : Int) ∣ leading :=
    (aligned_iff_dvd checked.access).mp leads.leading
  exact dvd_add (dense.mul_left _) (apart.mul_left _)

theorem IsMatrix.of_checkMatrix {name : String}
    (passed : GemmOperation.checkMatrix name operand = .ok ()) : operand.IsMatrix := by
  unfold GemmOperation.checkMatrix at passed
  obtain ⟨valid, matrix⟩ := of_checked passed
  replace valid : operand.validate = .ok () := mapError_ok.mp valid
  refine ⟨?_, by simpa using of_requireDescriptor matrix⟩
  intro none
  rw [validate, none] at valid
  exact absurd (refused_iff.mp valid).1 (by decide)

end OperandDescription

namespace GemmOperation

variable {operation : GemmOperation}

/-- The operands of a product. -/
structure HasMatrices (operation : GemmOperation) : Prop where
  a : operation.a.IsMatrix
  b : operation.b.IsMatrix
  c : operation.c.IsMatrix

theorem hasMatrices_of_create {kind : GemmKind} {arch : UInt32} {tile : TileDescription}
    {a b c : OperandDescription} {epilogue : Epilogue}
    (created : create kind arch tile a b c epilogue = .ok operation) : operation.HasMatrices := by
  unfold create at created
  obtain ⟨-, created⟩ := of_checked created
  obtain ⟨first, created⟩ := of_checked created
  obtain ⟨second, created⟩ := of_checked created
  obtain ⟨third, created⟩ := of_checked created
  obtain ⟨-, created⟩ := of_checked created
  cases created
  exact ⟨.of_checkMatrix first, .of_checkMatrix second, .of_checkMatrix third⟩

theorem Made.hasMatrices (made : operation.Made) : operation.HasMatrices := by
  induction made with
  | create created => exact hasMatrices_of_create created
  | withSwizzle _ accepted ih =>
      rw [withSwizzle_eq accepted]
      exact ⟨ih.a, ih.b, ih.c⟩

/-- What dense arguments need: extents, lines of whole accesses, and pointers to what is read and
written without fail. -/
structure Fits (operation : GemmOperation) (problem : GemmExtent)
    (pointerA pointerB pointerD : DevicePointer) : Prop where
  rows : 1 ≤ problem.m.toInt
  columns : 1 ≤ problem.n.toInt
  depth : 1 ≤ problem.k.toInt
  a : operation.a.WholeLines problem.m.toInt problem.k.toInt
  b : operation.b.WholeLines problem.k.toInt problem.n.toInt
  c : operation.c.WholeLines problem.m.toInt problem.n.toInt
  bound : pointerA.isNull = false ∧ pointerB.isNull = false ∧ pointerD.isNull = false

theorem validate_dense (checked : operation.HasMatrices) (single : operation.kind ≠ .grouped)
    (problem : GemmExtent) (pointerA pointerB pointerC pointerD : DevicePointer) :
    operation.validateArguments
        (operation.arguments problem pointerA pointerB pointerC pointerD) = .ok () ↔
      operation.Fits problem pointerA pointerB pointerD := by
  have a := checked.a.leads_dense problem.m problem.k
  have b := checked.b.leads_dense problem.k problem.n
  have c := checked.c.leads_dense problem.m problem.n
  have one : (1 : Int32).toInt = 1 := Int32.toInt_one
  have zero : Binary64.zero.isZero = true := by decide
  rw [validateArguments_ok]
  constructor
  · intro numbers
    exact ⟨numbers.rows, numbers.columns, numbers.depth, a.mp numbers.a, b.mp numbers.b,
      c.mp numbers.c, numbers.bound⟩
  · intro fits
    constructor
    case single => exact single
    case rows => exact fits.rows
    case columns => exact fits.columns
    case depth => exact fits.depth
    case batches => exact one.ge
    case slices => exact one.ge
    case either => exact .inl one.le
    case sliced => exact fun several => absurd several (Int.not_lt.mpr one.le)
    case a => exact a.mpr fits.a
    case b => exact b.mpr fits.b
    case c => exact c.mpr fits.c
    case d => exact c.mpr fits.c
    case bound => exact fits.bound
    case source => exact .inl zero

end GemmOperation

/-- The matrices of the members of a batch, as a kernel finds them. Strides count elements. -/
structure StoredMatrix where
  operand : OperandDescription
  stride : Int64
  leading : Int64

/-- The offset of the first element of a line. -/
def StoredMatrix.lineStart (matrix : StoredMatrix) (batch line : Nat) : Int :=
  batch * matrix.stride.toInt + line * matrix.leading.toInt

namespace GemmOperation

variable {operation : GemmOperation} {arguments : GemmArguments}

/-- The matrices A, B, C and D of a product. -/
def matrices (operation : GemmOperation) (arguments : GemmArguments) : List StoredMatrix :=
  List.zipWith3 StoredMatrix.mk [operation.a, operation.b, operation.c, operation.c]
    arguments.batchStrides
    [arguments.leadingA, arguments.leadingB, arguments.leadingC, arguments.leadingD]

example : (operation.matrices arguments).length = 4 := rfl

/-- Every line of accepted arguments begins at a whole access, in every member of the batch. -/
theorem Accepts.dvd_lineStart (checked : operation.HasMatrices)
    (numbers : operation.Accepts arguments) :
    ∀ matrix ∈ operation.matrices arguments, ∀ batch line : Nat,
      (matrix.operand.alignment.toNat : Int) ∣ matrix.lineStart batch line := by
  simp only [matrices, GemmArguments.batchStrides, List.zipWith3, List.forall_mem_cons,
    StoredMatrix.lineStart, toInt_product]
  refine ⟨?_, ?_, ?_, ?_, by simp⟩
  · exact checked.a.dvd_lineStart numbers.a
  · exact checked.b.dvd_lineStart numbers.b
  · exact checked.c.dvd_lineStart numbers.c
  · exact checked.c.dvd_lineStart numbers.d

/-- Dense arguments of a product are accepted exactly if they can be, and the lines of all accepted
arguments begin at whole accesses. -/
theorem dense_accepted_iff_aligned (made : operation.Made) (single : operation.kind ≠ .grouped) :
    (∀ (problem : GemmExtent) (pointerA pointerB pointerC pointerD : DevicePointer),
      operation.validateArguments
          (operation.arguments problem pointerA pointerB pointerC pointerD) = .ok () ↔
        operation.Fits problem pointerA pointerB pointerD) ∧
    ∀ arguments : GemmArguments, operation.validateArguments arguments = .ok () →
      ∀ matrix ∈ operation.matrices arguments, ∀ batch line : Nat,
        (matrix.operand.alignment.toNat : Int) ∣ matrix.lineStart batch line := by
  have checked := made.hasMatrices
  refine ⟨validate_dense checked single, ?_⟩
  intro arguments accepted
  exact (validateArguments_ok.mp accepted).dvd_lineStart checked

/-- Dense arguments for a depth of 40 elements are accepted and those for 41 are not, and in a batch
with gaps after the lines of A and D the sixth lines of the third member begin at multiples of
eight. -/
theorem dense_accepted_iff_aligned_padded :
    ∃ (operation : GemmOperation) (arguments : GemmArguments),
      Catalog.gemm 80 .f16 Catalog.transposed .universal = .ok operation ∧
        operation.Fits ⟨16, 24, 40⟩ ⟨1⟩ ⟨1⟩ ⟨1⟩ ∧ ¬operation.Fits ⟨16, 24, 41⟩ ⟨1⟩ ⟨1⟩ ⟨1⟩ ∧
        operation.validateArguments arguments = .ok () ∧ arguments.batchCount = 3 ∧
        arguments.leadingA = 48 ∧ arguments.leadingD = 32 ∧
        ∀ matrix ∈ operation.matrices arguments, (8 : Int) ∣ matrix.lineStart 2 5 := by
  obtain ⟨operation, created⟩ : ∃ operation,
      Catalog.gemm 80 .f16 Catalog.transposed .universal = .ok operation := ⟨_, rfl⟩
  have made := made_of_catalog created
  have single : operation.kind ≠ .grouped := by
    cases created
    decide
  obtain ⟨dense, aligned⟩ := dense_accepted_iff_aligned made single
  let arguments : GemmArguments :=
    { operation.arguments ⟨16, 24, 40⟩ ⟨1⟩ ⟨1⟩ ⟨1⟩ ⟨1⟩ with
      batchCount := 3, leadingA := 48, leadingD := 32 }
  have accepted : operation.validateArguments arguments = .ok () := by
    cases created
    decide +kernel
  refine ⟨operation, arguments, created, (dense _ _ _ ⟨1⟩ _).mp ?_,
    mt (dense _ _ _ ⟨1⟩ _).mpr ?_, accepted, rfl, rfl, rfl, ?_⟩
  · cases created
    decide +kernel
  · cases created
    decide +kernel
  · cases created
    intro matrix member
    have access : (matrix.operand.alignment.toNat : Int) = 8 := by
      revert matrix
      decide +kernel
    rw [← access]
    exact aligned arguments accepted matrix member 2 5

end GemmOperation

end DeviceKernels
