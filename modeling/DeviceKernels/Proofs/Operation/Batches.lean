import DeviceKernels.Proofs.Operation.Configurations
import DeviceKernels.Proofs.Operation.GemmArguments
import DeviceKernels.Proofs.Operation.SplitK

/-
The members of a batch are a dense matrix apart, and the lines of a member are a leading dimension
apart, which may be longer than a dense line: then the last lines of a member can reach into the
next one.
-/

namespace DeviceKernels

open Number Operation Outcome

namespace Layout

variable (layout : Layout) {rows columns : Nat}

theorem natCast_leadingDimension :
    (layout.leadingDimension rows columns : Nat) =
      layout.leadingDimension (rows : Int) (columns : Int) := by
  cases layout <;> rfl

theorem leadingDimension_positive (some : 0 < rows) (others : 0 < columns) :
    0 < layout.leadingDimension rows columns := by
  cases layout <;> assumption

/-- The lines of a dense matrix make up the matrix. -/
theorem leadingDimension_mul : layout.leadingDimension columns rows *
    layout.leadingDimension rows columns = rows * columns := by
  cases layout with
  | columnMajor => exact Nat.mul_comm columns rows
  | rowMajor => rfl
  | tensorNhwc => rfl

end Layout

/-- An element of the output of a batch. -/
structure OutputElement where
  batch : Nat
  row : Nat
  column : Nat
  deriving DecidableEq

namespace OutputElement

variable {batches rows columns : Nat} {leading stride : Int}

def Within (batches rows columns : Nat) (element : OutputElement) : Prop :=
  element.batch < batches ∧ element.row < rows ∧ element.column < columns

/-- The offset of an element, of matrices that are stored by rows. -/
def offset (leading stride : Int) (element : OutputElement) : Int :=
  element.batch * stride + (element.row * leading + element.column)

/-- No row of a later member begins within the length of a row of the first one. -/
def RowsApart (batches rows columns : Nat) (leading stride : Int) : Prop :=
  ∀ batch row : Nat, 0 < batch → batch < batches → 0 < row → row < rows →
    (columns : Int) ≤ |batch * stride - row * leading|

/-- Two elements of one offset are as many rows apart as their members. -/
theorem offset_eq_iff {element later : OutputElement} :
    element.offset leading stride = later.offset leading stride ↔
      (later.batch - element.batch : Int) * stride - (element.row - later.row : Int) * leading =
        element.column - later.column := by
  simp only [offset, Int.sub_mul]
  omega

/-- The element of a later member is in an earlier row if it has the same offset. -/
theorem row_lt_of_offset_eq (covers : columns ≤ leading) (dense : columns ≤ stride)
    {element later : OutputElement} (reach : element.column < columns)
    (order : element.batch < later.batch)
    (same : element.offset leading stride = later.offset leading stride) :
    later.row < element.row := by
  by_contra below
  have members : (1 : Int) ≤ later.batch - element.batch := by omega
  have rows : (element.row - later.row : Int) ≤ 0 := by omega
  have far : stride ≤ (later.batch - element.batch : Int) * stride :=
    le_mul_of_one_le_left (by omega) members
  have back : (element.row - later.row : Int) * leading ≤ 0 :=
    Int.mul_nonpos_of_nonpos_of_nonneg rows (by omega)
  rw [offset_eq_iff] at same
  omega

/-- Elements of one member differ in their offsets if a row ends before the next one begins. -/
theorem eq_of_offset_eq (covers : columns ≤ leading) {element element' : OutputElement}
    (reach : element.column < columns) (reach' : element'.column < columns)
    (member : element.batch = element'.batch)
    (same : element.offset leading stride = element'.offset leading stride) :
    element = element' := by
  obtain ⟨batch, row, column⟩ := element
  obtain ⟨batch', row', column'⟩ := element'
  obtain rfl : batch = batch' := member
  rw [offset_eq_iff] at same
  dsimp only at reach reach' same
  rw [Int.sub_self, Int.zero_mul, Int.zero_sub, ← Int.neg_mul] at same
  -- Whole rows lie between the two, and they are less than a row apart.
  have close : |(column - column' : Int)| < leading := abs_lt.mpr ⟨by omega, by omega⟩
  have none : (column - column' : Int) = 0 :=
    Int.eq_zero_of_abs_lt_dvd (Dvd.intro_left _ same) close
  have rows := (Int.mul_eq_zero.mp (same.trans none)).resolve_right (by omega)
  obtain rfl : row = row' := by omega
  obtain rfl : column = column' := by omega
  rfl

/-- An element of a later member has another offset if the rows are apart. -/
theorem later_ne (covers : columns ≤ leading) (dense : columns ≤ stride)
    (apart : RowsApart batches rows columns leading stride) {element later : OutputElement}
    (within : element.Within batches rows columns) (within' : later.Within batches rows columns)
    (order : element.batch < later.batch) :
    element.offset leading stride ≠ later.offset leading stride := by
  intro same
  obtain ⟨-, inside, reach⟩ := within
  obtain ⟨member, inside', reach'⟩ := within'
  have above := row_lt_of_offset_eq covers dense reach order same
  have distance := apart (later.batch - element.batch) (element.row - later.row) (by omega)
    (by omega) (by omega) (by omega)
  rw [Int.natCast_sub order.le, Int.natCast_sub above.le, offset_eq_iff.mp same, le_abs] at distance
  omega

/-- Rows that are not apart have a common offset. -/
theorem common_offset {batch row : Nat} (some : 0 < columns)
    (close : |batch * stride - row * leading| < columns) :
    ∃ column column' : Nat, column < columns ∧ column' < columns ∧
      offset leading stride ⟨0, row, column⟩ = offset leading stride ⟨batch, 0, column'⟩ := by
  obtain ⟨low, high⟩ := abs_lt.mp close
  rcases Int.le_total (row * leading) (batch * stride) with first | second
  · refine ⟨(batch * stride - row * leading).toNat, 0, by omega, some, ?_⟩
    simp only [offset]
    omega
  · refine ⟨0, (row * leading - batch * stride).toNat, some, by omega, ?_⟩
    simp only [offset]
    omega

/-- The offsets of a batch differ exactly if the rows are apart. -/
theorem injOn_offset_iff (some : 0 < columns) (covers : columns ≤ leading)
    (dense : columns ≤ stride) :
    Set.InjOn (offset leading stride) {element | element.Within batches rows columns} ↔
      RowsApart batches rows columns leading stride := by
  constructor
  · intro injective batch row later inside lower inside'
    by_contra close
    obtain ⟨column, column', reach, reach', same⟩ := common_offset some (Int.not_le.mp close)
    have first : Within batches rows columns ⟨0, row, column⟩ :=
      ⟨later.trans inside, inside', reach⟩
    have second : Within batches rows columns ⟨batch, 0, column'⟩ :=
      ⟨inside, lower.trans inside', reach'⟩
    exact absurd (congrArg OutputElement.batch (injective first second same)) later.ne
  · intro apart element within element' within' same
    rcases Nat.lt_trichotomy element.batch element'.batch with before | member | after
    · exact absurd same (later_ne covers dense apart within within' before)
    · exact eq_of_offset_eq covers within.2.2 within'.2.2 member same
    · exact absurd same.symm (later_ne covers dense apart within' within after)

/-- Matrices are apart if each one ends before the next one begins. -/
theorem rowsApart_of_stacked (covers : columns ≤ leading) (stacked : rows * leading ≤ stride) :
    RowsApart batches rows columns leading stride := by
  intro batch row later inside lower inside'
  have lines : (row + 1 : Int) * leading ≤ rows * leading :=
    Int.mul_le_mul_of_nonneg_right (by omega) (by omega)
  have empty : 0 ≤ rows * leading := Int.mul_nonneg (by omega) (by omega)
  have members : stride ≤ batch * stride := le_mul_of_one_le_left (by omega) (by omega)
  rw [le_abs]
  rw [Int.add_mul] at lines
  omega

/-- Dense matrices are apart, and so are matrices of one row. -/
theorem rowsApart_of_dense (stacked : stride = rows * columns)
    (dense : batches ≤ 1 ∨ rows ≤ 1 ∨ leading = columns) :
    RowsApart batches rows columns leading stride := by
  rcases dense with single | line | rfl
  · intro batch row later inside
    omega
  · intro batch row later inside lower inside'
    omega
  · exact rowsApart_of_stacked (Int.le_refl _) stacked.ge

/-- The offsets of matrices differ if each one ends before the next one begins. -/
theorem injOn_offset_of_stacked (some : 0 < rows) (others : 0 < columns)
    (covers : columns ≤ leading) (stacked : 1 < batches → rows * leading ≤ stride) :
    Set.InjOn (offset leading stride) {element | element.Within batches rows columns} := by
  by_cases several : 1 < batches
  · have lines : leading ≤ rows * leading := le_mul_of_one_le_left (by omega) (by omega)
    have far := stacked several
    exact (injOn_offset_iff others covers (by omega)).mpr (rowsApart_of_stacked covers far)
  · intro element within element' within' same
    have member : element.batch = element'.batch := by
      have := within.1
      have := within'.1
      omega
    exact eq_of_offset_eq covers within.2.2 within'.2.2 member same

def transpose (element : OutputElement) : OutputElement :=
  ⟨element.batch, element.column, element.row⟩

/-- The offset of an element, of matrices of a layout. -/
def layoutOffset (layout : Layout) (leading stride : Int) (element : OutputElement) : Int :=
  match layout with
  | .columnMajor => element.transpose.offset leading stride
  | _ => element.offset leading stride

/-- Elements of one member differ in their offsets if a line ends before the next one begins. -/
theorem eq_of_layoutOffset_eq (layout : Layout) {rows columns : Nat}
    (covers : layout.leadingDimension rows columns ≤ leading) {element element' : OutputElement}
    (within : element.Within batches rows columns) (within' : element'.Within batches rows columns)
    (member : element.batch = element'.batch)
    (same : element.layoutOffset layout leading stride =
      element'.layoutOffset layout leading stride) : element = element' := by
  cases layout with
  | columnMajor =>
      have equal : element.transpose = element'.transpose :=
        eq_of_offset_eq covers within.2.1 within'.2.1 member same
      exact congrArg transpose equal
  | rowMajor => exact eq_of_offset_eq covers within.2.2 within'.2.2 member same
  | tensorNhwc => exact eq_of_offset_eq covers within.2.2 within'.2.2 member same

/-- A matrix has as many lines as there are rows or columns. -/
theorem injOn_layoutOffset_iff (layout : Layout) {rows columns : Nat}
    (some : 0 < layout.leadingDimension rows columns)
    (covers : layout.leadingDimension rows columns ≤ leading)
    (dense : layout.leadingDimension rows columns ≤ stride) :
    Set.InjOn (layoutOffset layout leading stride)
        {element | element.Within batches rows columns} ↔
      RowsApart batches (layout.leadingDimension columns rows)
        (layout.leadingDimension rows columns) leading stride := by
  cases layout with
  | columnMajor =>
      rw [← injOn_offset_iff some covers dense]
      constructor
      · intro injective element within element' within' same
        have within : element.transpose.Within batches rows columns := within.imp id And.symm
        have within' : element'.transpose.Within batches rows columns := within'.imp id And.symm
        exact congrArg transpose (injective within within' same)
      · intro injective element within element' within' same
        have within : element.transpose.Within batches columns rows := within.imp id And.symm
        have within' : element'.transpose.Within batches columns rows := within'.imp id And.symm
        exact congrArg transpose (injective within within' same)
  | rowMajor => exact injOn_offset_iff some covers dense
  | tensorNhwc => exact injOn_offset_iff some covers dense

end OutputElement

namespace GemmArguments

/-- The stride between the members of D. -/
def strideD (arguments : GemmArguments) : Int64 := arguments.batchStrides.getD 3 0

/-- The elements of D of all members. -/
def outputs (arguments : GemmArguments) : Set OutputElement :=
  {element | element.Within arguments.batchCount.toInt.toNat arguments.problem.m.toInt.toNat
    arguments.problem.n.toInt.toNat}

/-- Members are a dense matrix apart. -/
theorem toInt_strideD (arguments : GemmArguments) :
    arguments.strideD.toInt = arguments.problem.m.toInt * arguments.problem.n.toInt :=
  toInt_product _ _

end GemmArguments

namespace GemmOperation

variable {operation : GemmOperation} {arguments : GemmArguments}

/-- The offset that an element of D is written to. -/
def outputOffset (operation : GemmOperation) (arguments : GemmArguments)
    (element : OutputElement) : Int :=
  element.layoutOffset operation.c.layout arguments.leadingD.toInt arguments.strideD.toInt

/-- The parameter block has the stride after three words, two scalars, four pointers and the strides
of the other operands. -/
theorem parameters_strideD {parameters : List Parameter}
    (listed : operation.parameters arguments = .ok parameters) :
    parameters[12]? = some (.word64 arguments.strideD) := by
  obtain ⟨scalars, formed, listed⟩ := bound_iff.mp listed
  obtain ⟨alpha, beta, -, -, rfl⟩ := packScalars_ok.mp formed
  obtain rfl := Except.ok.inj listed
  rfl

/-- The number of lines of a member of D. -/
def outputLines (operation : GemmOperation) (arguments : GemmArguments) : Nat :=
  operation.c.layout.leadingDimension arguments.problem.n.toInt.toNat
    arguments.problem.m.toInt.toNat

/-- The length of a line of D. -/
def outputLength (operation : GemmOperation) (arguments : GemmArguments) : Nat :=
  operation.c.layout.leadingDimension arguments.problem.m.toInt.toNat
    arguments.problem.n.toInt.toNat

/-- Lines of accepted arguments are not empty and do not meet, and members are as far apart as all
lines of a dense matrix. -/
theorem Accepts.lines (numbers : operation.Accepts arguments) :
    0 < operation.outputLength arguments ∧
      operation.outputLength arguments ≤ arguments.leadingD.toInt ∧
      arguments.strideD.toInt =
        operation.outputLines arguments * operation.outputLength arguments ∧
      operation.outputLength arguments ≤ arguments.strideD.toInt := by
  have rows : (arguments.problem.m.toInt.toNat : Int) = arguments.problem.m.toInt :=
    Int.toNat_of_nonneg numbers.rows.le
  have columns : (arguments.problem.n.toInt.toNat : Int) = arguments.problem.n.toInt :=
    Int.toNat_of_nonneg numbers.columns.le
  have some : 0 < arguments.problem.m.toInt.toNat := Int.pos_iff_toNat_pos.mp numbers.rows
  have others : 0 < arguments.problem.n.toInt.toNat := Int.pos_iff_toNat_pos.mp numbers.columns
  have covers := numbers.d.covers
  rw [OperandDescription.contiguous, ← rows, ← columns, ← Layout.natCast_leadingDimension] at covers
  have stacked : arguments.strideD.toInt =
      operation.outputLines arguments * operation.outputLength arguments := by
    rw [arguments.toInt_strideD, ← rows, ← columns, ← Int.natCast_mul, ← Int.natCast_mul]
    exact congrArg Int.ofNat (operation.c.layout.leadingDimension_mul).symm
  have lines : (1 : Int) ≤ operation.outputLines arguments :=
    Int.ofNat_le.mpr (operation.c.layout.leadingDimension_positive others some)
  refine ⟨operation.c.layout.leadingDimension_positive some others, covers, stacked, ?_⟩
  exact stacked ▸ le_mul_of_one_le_left (Int.natCast_nonneg _) lines

/-- The block of accepted arguments has a dense matrix as the stride of D. No two elements of a
member share an offset, and no two elements of a batch do exactly if the lines of the members are
apart, as they are for dense lines, for a single line and for a single member. -/
theorem outputOffset_injOn_iff (accepted : operation.validateArguments arguments = .ok ()) :
    (∀ bytes, operation.packArguments arguments = .ok bytes →
      ∃ parameters, operation.parameters arguments = .ok parameters ∧
        pack parameters = .ok bytes ∧ parameters[12]? = some (.word64 arguments.strideD)) ∧
    (∀ element ∈ arguments.outputs, ∀ element' ∈ arguments.outputs,
      element.batch = element'.batch →
      operation.outputOffset arguments element = operation.outputOffset arguments element' →
        element = element') ∧
    (Set.InjOn (operation.outputOffset arguments) arguments.outputs ↔
      OutputElement.RowsApart arguments.batchCount.toInt.toNat (operation.outputLines arguments)
        (operation.outputLength arguments) arguments.leadingD.toInt
        (arguments.problem.m.toInt * arguments.problem.n.toInt)) ∧
    (arguments.batchCount.toInt ≤ 1 ∨ operation.outputLines arguments ≤ 1 ∨
      arguments.leadingD.toInt = operation.outputLength arguments →
        Set.InjOn (operation.outputOffset arguments) arguments.outputs) := by
  have numbers := validateArguments_ok.mp accepted
  obtain ⟨some, covers, stacked, dense⟩ := numbers.lines
  have injective : Set.InjOn (operation.outputOffset arguments) arguments.outputs ↔
      OutputElement.RowsApart arguments.batchCount.toInt.toNat (operation.outputLines arguments)
        (operation.outputLength arguments) arguments.leadingD.toInt arguments.strideD.toInt :=
    OutputElement.injOn_layoutOffset_iff operation.c.layout some covers dense
  refine ⟨?_, ?_, ?_, ?_⟩
  · intro bytes packed
    obtain ⟨-, packed⟩ := of_checked packed
    obtain ⟨parameters, listed, packed⟩ := bound_iff.mp packed
    exact ⟨parameters, listed, packed, parameters_strideD listed⟩
  · intro element within element' within' member same
    exact OutputElement.eq_of_layoutOffset_eq operation.c.layout covers within within' member same
  · rw [← arguments.toInt_strideD]
    exact injective
  · intro either
    refine injective.mpr (OutputElement.rowsApart_of_dense stacked ?_)
    exact either.imp_left (by omega)

theorem outputOffset_injOn_iff_dense : ∃ (operation : GemmOperation) (arguments : GemmArguments),
    Catalog.gemm 80 .f16 Catalog.transposed .universal = .ok operation ∧
      operation.validateArguments arguments = .ok () ∧ arguments.batchCount = 3 ∧
      Set.InjOn (operation.outputOffset arguments) arguments.outputs := by
  obtain ⟨operation, created⟩ : ∃ operation,
      Catalog.gemm 80 .f16 Catalog.transposed .universal = .ok operation := ⟨_, rfl⟩
  let arguments : GemmArguments :=
    { operation.arguments ⟨2, 8, 8⟩ ⟨1⟩ ⟨1⟩ ⟨1⟩ ⟨1⟩ with batchCount := 3 }
  have accepted : operation.validateArguments arguments = .ok () := by
    cases created
    decide +kernel
  have dense : arguments.leadingD.toInt = operation.outputLength arguments := by
    cases created
    decide +kernel
  obtain ⟨-, -, -, injective⟩ := outputOffset_injOn_iff accepted
  exact ⟨operation, arguments, created, accepted, rfl, injective (.inr (.inr dense))⟩

/-- The second row of a member and the first row of the next one have the same offsets if rows of
eight elements are sixteen apart. -/
theorem padded_batches_overlap : ∃ (operation : GemmOperation) (arguments : GemmArguments),
    Catalog.gemm 80 .f16 Catalog.transposed .universal = .ok operation ∧
      operation.validateArguments arguments = .ok () ∧
      (operation.packArguments arguments).toOption.isSome ∧
      ⟨0, 1, 0⟩ ∈ arguments.outputs ∧ ⟨1, 0, 0⟩ ∈ arguments.outputs ∧
      operation.outputOffset arguments ⟨0, 1, 0⟩ = 16 ∧
      operation.outputOffset arguments ⟨1, 0, 0⟩ = 16 := by
  obtain ⟨operation, created⟩ : ∃ operation,
      Catalog.gemm 80 .f16 Catalog.transposed .universal = .ok operation := ⟨_, rfl⟩
  let arguments : GemmArguments :=
    { operation.arguments ⟨2, 8, 8⟩ ⟨1⟩ ⟨1⟩ ⟨1⟩ ⟨1⟩ with batchCount := 2, leadingD := 16 }
  have first : (⟨0, 1, 0⟩ : OutputElement) ∈ arguments.outputs :=
    show 0 < 2 ∧ 1 < 2 ∧ 0 < 8 by decide
  have second : (⟨1, 0, 0⟩ : OutputElement) ∈ arguments.outputs :=
    show 1 < 2 ∧ 0 < 2 ∧ 0 < 8 by decide
  refine ⟨operation, arguments, created, ?_, ?_, first, second, ?_, ?_⟩
  all_goals
    cases created
    decide +kernel

end GemmOperation

end DeviceKernels
