import DeviceKernels.Proofs.Operation.ConvolutionArguments
import DeviceKernels.Proofs.Operation.ImplicitProduct
import DeviceKernels.Proofs.Operation.ReductionArguments
import DeviceKernels.Proofs.Operation.Tiles
import DeviceKernels.Proofs.Parameter.Block
import Mathlib.Tactic.Linarith

/-
The two stages of a parallel split-K convolution. Arguments that the partial kernel accepts give
the reduction a problem with rows, columns and partitions, a dense workspace and pointers.
-/

namespace DeviceKernels

open Number Operation Outcome

/-- To be aligned to an access is to be a multiple of it. -/
theorem Operation.aligned_access (elements : UInt32) (value : Int) :
    (1 < max elements 1 → value % ((max elements 1).toNat : Int) = 0) ↔
      value % ((max elements 1).toNat : Int) = 0 :=
  (aligned_iff_dvd (access_ne_zero elements)).trans Int.dvd_iff_emod_eq_zero

namespace ConvolutionOperation

variable {operation : ConvolutionOperation} {arguments : ConvolutionArguments}
  {workspace : DevicePointer}

/-- What the reduction needs of arguments that the partial kernel accepts. -/
structure Ready (arguments : ConvolutionArguments) (workspace : DevicePointer) : Prop where
  valid : arguments.problem.Valid
  workspace : workspace.isNull = false
  destination : arguments.pointerD.isNull = false
  source : (arguments.beta.isZero || !arguments.pointerC.isNull) = true

/-- A workspace is all that the reduction needs besides accepted arguments. -/
theorem Accepts.ready (numbers : operation.Accepts arguments) (bound : workspace.isNull = false) :
    Ready arguments workspace where
  valid := numbers.valid
  workspace := bound
  destination := numbers.bound.2.2
  source := by simpa using numbers.source

theorem ready_of_accepted (split : arguments.splitK = .parallel workspace)
    (accepted : operation.validateArguments arguments = .ok ()) :
    Ready arguments workspace := by
  have numbers := validateArguments_ok.mp accepted
  exact numbers.ready (numbers.split workspace split).2

/-- The arguments of the reduction of a parallel run. -/
def derivedArguments (operation : ConvolutionOperation) (arguments : ConvolutionArguments)
    (workspace : DevicePointer) : ReductionArguments :=
  { ReductionArguments.dense ⟨(operation.implicitGemm arguments.problem).m,
      (operation.implicitGemm arguments.problem).n⟩ arguments.problem.splitKSlices workspace
        arguments.pointerD arguments.pointerC with
    alpha := arguments.alpha
    beta := arguments.beta }

/-- A parallel run with a workspace has arguments for its reduction. -/
theorem reductionArguments_parallel (operation : ConvolutionOperation)
    (split : arguments.splitK = .parallel workspace)
    (bound : workspace.isNull = false) :
    operation.reductionArguments arguments =
      .ok (operation.derivedArguments arguments workspace) := by
  simp only [reductionArguments, split, bound]
  rfl

/-- The reduction takes every argument that follows from those of the partial kernel if one access
of a thread divides the columns, the scalars have a form in their type, and the columns of a block
fit a word. -/
structure ReductionFits (operation : ConvolutionOperation) (problem : ConvolutionProblem) : Prop where
  aligned : (operation.implicitGemm problem).n.toInt %
    ((max operation.epilogue.elementsPerAccess 1).toNat : Int) = 0
  scalar : operation.epilogue.elementScalar ≠ .s8 ∧ operation.epilogue.elementScalar ≠ .u8
  columns : operation.splitKReduction.columnsPerBlock < 2 ^ 32

/-- The reduction accepts its arguments exactly if one access divides the columns. -/
theorem validate_derivedArguments (ready : Ready arguments workspace) :
    operation.splitKReduction.validateArguments (operation.derivedArguments arguments workspace) =
        .ok () ↔
      (operation.implicitGemm arguments.problem).n.toInt %
        ((max operation.epilogue.elementsPerAccess 1).toNat : Int) = 0 := by
  obtain ⟨rows, columns, -⟩ := implicitGemm_positive operation ready.valid
  have access := aligned_access operation.epilogue.elementsPerAccess
    (operation.implicitGemm arguments.problem).n.toInt
  have word := Int32.toInt_toInt64 (operation.implicitGemm arguments.problem).n
  rw [ReductionOperation.validateArguments_ok]
  constructor
  · intro numbers
    exact access.mp numbers.aligned
  · intro multiple
    have leads : operation.splitKReduction.Leads
        (operation.implicitGemm arguments.problem).n.toInt64.toInt
        (operation.implicitGemm arguments.problem).n.toInt :=
      word.symm ▸ ⟨Int.le_refl _, access.mpr multiple⟩
    constructor
    case rows => exact rows
    case columns => exact columns
    case partitions => exact ready.valid.slices
    case aligned => exact access.mpr multiple
    case workspace => exact leads
    case destination => exact leads
    case source => exact leads
    case apart =>
      intro _
      refine Int.le_of_eq (Eq.trans ?_ (toInt_product _ _).symm)
      exact congrArg _ word
    case bound => exact ⟨ready.workspace, ready.destination⟩
    case added => simpa [derivedArguments, ReductionArguments.dense] using ready.source

end ConvolutionOperation

/-- Only the types of eight-bit integers have no form for the scalars of an epilogue. -/
theorem Operation.packScalars_ok {epilogue : Epilogue} {alpha beta : Binary64}
    {parameters : List Parameter} :
    packScalars epilogue alpha beta = .ok parameters ↔
      ∃ first second, Scalar.ofBinary64? epilogue.elementScalar alpha = some first ∧
        Scalar.ofBinary64? epilogue.elementScalar beta = some second ∧
        parameters = [.scalar first, .scalar second] := by
  unfold packScalars
  split
  case h_1 first second one two => simp [one, two, eq_comm]
  case h_2 none =>
    simp only [reduceCtorEq, false_iff]
    rintro ⟨first, second, one, two, -⟩
    exact none first second one two

theorem Scalar.ofBinary64?_isSome {element : ElementType} (value : Binary64) :
    (∃ scalar, ofBinary64? element value = some scalar) ↔ element ≠ .s8 ∧ element ≠ .u8 := by
  cases element <;> simp [ofBinary64?]

theorem Operation.packScalars_isOk {epilogue : Epilogue} {alpha beta : Binary64} :
    (∃ parameters, packScalars epilogue alpha beta = .ok parameters) ↔
      epilogue.elementScalar ≠ .s8 ∧ epilogue.elementScalar ≠ .u8 := by
  constructor
  · rintro ⟨parameters, packed⟩
    obtain ⟨first, second, form, -⟩ := packScalars_ok.mp packed
    exact (Scalar.ofBinary64?_isSome alpha).mp ⟨first, form⟩
  · intro formed
    obtain ⟨first, one⟩ := (Scalar.ofBinary64?_isSome alpha).mpr formed
    obtain ⟨second, two⟩ := (Scalar.ofBinary64?_isSome beta).mpr formed
    exact ⟨_, packScalars_ok.mpr ⟨first, second, one, two, rfl⟩⟩

/-- A scalar is a double word at most. -/
theorem Scalar.length_image_le (scalar : Scalar) : scalar.image.length ≤ 8 := by
  rw [lengthImage]
  cases scalar <;> simp [byteSize]

/-- The scalars of an epilogue take two double words with the gaps before them. -/
theorem Operation.room_packScalars {epilogue : Epilogue} {alpha beta : Binary64}
    {parameters : List Parameter} (packed : packScalars epilogue alpha beta = .ok parameters) :
    ParameterBlock.room parameters ≤ 30 := by
  obtain ⟨first, second, -, -, rfl⟩ := packScalars_ok.mp packed
  have one := first.length_image_le
  have two := second.length_image_le
  simp only [ParameterBlock.room, List.map_cons, List.map_nil, List.sum_cons, List.sum_nil,
    Parameter.image]
  omega

/-- Few parameters fill a block. -/
theorem Operation.pack_ok {parameters : List Parameter}
    (few : ParameterBlock.room parameters + 7 ≤ parameterLimit) :
    ∃ bytes, pack parameters = .ok bytes := by
  obtain ⟨bytes, finished⟩ := ParameterBlock.finish_ok few
  refine ⟨bytes, ?_⟩
  rw [pack, finished]
  rfl

/-- Accepted arguments fill a block exactly if their scalars have a form, as long as there are few
other parameters. -/
theorem Operation.packed_ok {check : Except ArgumentError Unit}
    {listed : Except ArgumentError (List Parameter)} {epilogue : Epilogue} {alpha beta : Binary64}
    {before after : List Parameter}
    (formed : listed = do
      let scalars ← packScalars epilogue alpha beta
      .ok (before ++ scalars ++ after))
    (few : ParameterBlock.room before + ParameterBlock.room after + 37 ≤ parameterLimit) :
    (∃ bytes, (do check; pack (← listed)) = .ok bytes) ↔
      check = .ok () ∧ epilogue.elementScalar ≠ .s8 ∧ epilogue.elementScalar ≠ .u8 := by
  rw [← packScalars_isOk]
  subst formed
  constructor
  · rintro ⟨bytes, packed⟩
    obtain ⟨accepted, packed⟩ := of_checked packed
    obtain ⟨parameters, listed, -⟩ := bound_iff.mp packed
    obtain ⟨scalars, form, -⟩ := bound_iff.mp listed
    exact ⟨accepted, scalars, form⟩
  · rintro ⟨accepted, scalars, form⟩
    have taken := room_packScalars form
    have room : ParameterBlock.room (before ++ scalars ++ after) =
        ParameterBlock.room before + ParameterBlock.room scalars + ParameterBlock.room after := by
      simp [ParameterBlock.room, Nat.add_assoc]
    obtain ⟨bytes, packed⟩ : ∃ bytes, pack (before ++ scalars ++ after) = .ok bytes :=
      pack_ok (by omega)
    exact ⟨bytes, checked_iff.mpr ⟨accepted,
      bound_iff.mpr ⟨_, bound_iff.mpr ⟨scalars, form, rfl⟩, packed⟩⟩⟩

/-- Accepted arguments of a reduction fill a block exactly if their scalars have a form. -/
theorem ReductionOperation.packArguments_ok {operation : ReductionOperation}
    {arguments : ReductionArguments} :
    (∃ bytes, operation.packArguments arguments = .ok bytes) ↔
      operation.validateArguments arguments = .ok () ∧
        operation.epilogue.elementScalar ≠ .s8 ∧ operation.epilogue.elementScalar ≠ .u8 := by
  let fields : List Parameter := [.matrix arguments.problem, .word32 arguments.partitions,
    .word64 arguments.partitionStride, .pointer arguments.workspace,
    .word64 arguments.leadingWorkspace, .pointer arguments.destination,
    .word64 arguments.leadingDestination, .pointer arguments.source,
    .word64 arguments.leadingSource]
  have formed : operation.parameters arguments = (do
      let scalars ← packScalars operation.epilogue arguments.alpha arguments.beta
      .ok (fields ++ scalars ++ [])) := by
    simp only [parameters, List.append_nil, fields]
  refine packed_ok formed ?_
  simp [fields, ParameterBlock.room, Parameter.image, MatrixExtent.image, signedWord32,
    signedWord64, word32, word64, parameterLimit]

/-- Accepted arguments of a convolution fill a block exactly if their scalars have a form. -/
theorem ConvolutionOperation.packArguments_ok {operation : ConvolutionOperation}
    {arguments : ConvolutionArguments} :
    (∃ bytes, operation.packArguments arguments = .ok bytes) ↔
      operation.validateArguments arguments = .ok () ∧
        operation.epilogue.elementScalar ≠ .s8 ∧ operation.epilogue.elementScalar ≠ .u8 := by
  have few (pointerD : DevicePointer) :
      ParameterBlock.room [.convolution arguments.problem, .word32 arguments.modeValue] +
        ParameterBlock.room [.pointer arguments.pointerA, .pointer arguments.pointerB,
          .pointer arguments.pointerC, .pointer pointerD] + 37 ≤ parameterLimit := by
    simp [ParameterBlock.room, Parameter.image, ConvolutionProblem.image, ConvolutionProblem.words,
      signedWord32, word32, word64, parameterLimit]
  unfold packArguments parameters
  cases arguments.splitK with
  | serial => exact packed_ok rfl (few _)
  | parallel workspace => exact packed_ok rfl (few _)

/-- A plane with both extents has members, and a 64-bit word counts them. -/
theorem LaunchExtent.volume_plane {x y : UInt32} (wide : x ≠ 0) (tall : y ≠ 0) :
    (LaunchExtent.mk x y 1).volume ≠ 0 ∧ (LaunchExtent.mk x y 1).volume ≤ maxWord64 := by
  have same : (LaunchExtent.mk x y 1).volume = x.toNat * y.toNat := Nat.mul_one _
  have many : 0 < x.toNat * y.toNat := Nat.mul_pos (toNat_positive wide) (toNat_positive tall)
  have few : x.toNat * y.toNat ≤ (2 ^ 32 - 1) * (2 ^ 32 - 1) :=
    Nat.mul_le_mul (Nat.le_sub_one_of_lt x.toNat_lt) (Nat.le_sub_one_of_lt y.toNat_lt)
  rw [same]
  exact ⟨many.ne', few.trans (by decide)⟩

namespace ConvolutionOperation

variable {operation : ConvolutionOperation} {arguments : ConvolutionArguments}
  {workspace : DevicePointer} {launch : LaunchConfig}

/-- The columns of a block are more than none. -/
theorem columnsPerBlock_positive (operation : ConvolutionOperation) :
    0 < operation.splitKReduction.columnsPerBlock :=
  Nat.mul_pos (show 0 < (32 : UInt32).toNat by decide)
    (toNat_positive (access_ne_zero operation.epilogue.elementsPerAccess))

/-- The reduction has a launch exactly if it accepts its arguments and the columns of its blocks fit
a word. -/
theorem launch_derivedArguments (ready : Ready arguments workspace) :
    (∃ launch, operation.splitKReduction.launchConfig
        (operation.derivedArguments arguments workspace) = .ok launch) ↔
      (operation.implicitGemm arguments.problem).n.toInt %
          ((max operation.epilogue.elementsPerAccess 1).toNat : Int) = 0 ∧
        operation.splitKReduction.columnsPerBlock < 2 ^ 32 := by
  have rows : operation.splitKReduction.shape.rows ≠ 0 := show (4 : UInt32) ≠ 0 by decide
  rw [← validate_derivedArguments ready]
  constructor
  · rintro ⟨launch, asked⟩
    obtain ⟨accepted, asked⟩ := of_checked asked
    obtain ⟨width, counted, -⟩ := bound_iff.mp asked
    exact ⟨accepted, checked32_eq_some.mp (computed_ok.mp counted) ▸ width.toNat_lt⟩
  · rintro ⟨accepted, fits⟩
    obtain ⟨width, counted⟩ := checked32_of_lt fits
    have some : width ≠ 0 := by
      rintro rfl
      exact (columnsPerBlock_positive operation).ne (checked32_eq_some.mp counted)
    exact ⟨_, checked_iff.mpr ⟨accepted, bound_iff.mpr ⟨width, computed_ok.mpr counted,
      bound_iff.mpr ⟨_, tilesCovering_ok.mpr ⟨some, rfl⟩,
        bound_iff.mpr ⟨_, tilesCovering_ok.mpr ⟨rows, rfl⟩, rfl⟩⟩⟩⟩⟩

/-- The launch of the reduction has blocks that a word counts, of 128 threads and without shared
memory. -/
theorem launch_derivedArguments_extents (ready : Ready arguments workspace)
    (asked : operation.splitKReduction.launchConfig
      (operation.derivedArguments arguments workspace) = .ok launch) :
    (launch.grid.volume ≠ 0 ∧ launch.grid.volume ≤ maxWord64) ∧ launch.block.volume = 128 ∧
      launch.sharedMemoryBytes = 0 := by
  obtain ⟨-, asked⟩ := of_checked asked
  obtain ⟨width, -, asked⟩ := bound_iff.mp asked
  obtain ⟨columns, covered, asked⟩ := bound_iff.mp asked
  obtain ⟨rows, coveredRows, asked⟩ := bound_iff.mp asked
  obtain ⟨wide, rfl⟩ := tilesCovering_ok.mp covered
  obtain ⟨tall, rfl⟩ := tilesCovering_ok.mp coveredRows
  obtain rfl := Except.ok.inj asked
  refine ⟨?_, rfl, rfl⟩
  obtain ⟨positiveRows, positiveColumns, -⟩ := implicitGemm_positive operation ready.valid
  apply LaunchExtent.volume_plane
  · exact lowWord_ceilDiv_ne_zero positiveColumns wide
  · exact lowWord_ceilDiv_ne_zero positiveRows tall

end ConvolutionOperation

end DeviceKernels
