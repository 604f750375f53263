import DeviceKernels.Proofs.Operation.Batches
import DeviceKernels.Proofs.Operation.Grids

/-
The partial kernel stores one matrix of accumulators for each slice of its grid, and the reduction
reads as many matrices of the same extents, all of them within the bytes that were asked for.
-/

namespace DeviceKernels

open Number Operation Outcome

/-- A cut before a multiplication makes no difference to one after it. -/
theorem Number.min_mul_min {most value factor : Nat} (some : 0 < factor) :
    min most (min most value * factor) = min most (value * factor) := by
  rcases Nat.le_total value most with fits | cut
  · rw [Nat.min_eq_right fits]
  · have kept := Nat.le_mul_of_pos_right most some
    rw [Nat.min_eq_left cut, Nat.min_eq_left kept,
      Nat.min_eq_left (kept.trans (Nat.mul_le_mul_right factor cut))]

/-- An element of dense matrices lies within them. -/
theorem OutputElement.Within.offset_lt {batches rows columns : Nat} {element : OutputElement}
    (within : element.Within batches rows columns) :
    element.offset columns (rows * columns) < batches * (rows * columns) := by
  obtain ⟨batch, row, column⟩ := within
  have line : element.row * columns + element.column < rows * columns :=
    calc element.row * columns + element.column
      _ < (element.row + 1) * columns := by rw [Nat.succ_mul]; omega
      _ ≤ rows * columns := Nat.mul_le_mul_right columns row
  have matrix : element.batch * (rows * columns) + (element.row * columns + element.column) <
      batches * (rows * columns) :=
    calc element.batch * (rows * columns) + (element.row * columns + element.column)
      _ < (element.batch + 1) * (rows * columns) := by rw [Nat.succ_mul]; omega
      _ ≤ batches * (rows * columns) := Nat.mul_le_mul_right _ batch
  unfold offset
  exact mod_cast matrix

namespace ReductionArguments

variable {arguments : ReductionArguments}

/-- The elements that a reduction reads, one matrix for each partition. -/
def partials (arguments : ReductionArguments) : Set OutputElement :=
  {element | element.Within arguments.partitions.toInt.toNat arguments.problem.row.toInt.toNat
    arguments.problem.column.toInt.toNat}

/-- Where a reduction finds an element in the workspace. -/
def partialOffset (arguments : ReductionArguments) (element : OutputElement) : Int :=
  element.offset arguments.leadingWorkspace.toInt arguments.partitionStride.toInt

/-- Neither the rows of a matrix nor the matrices have gaps between them. -/
structure Dense (arguments : ReductionArguments) : Prop where
  rows : 0 ≤ arguments.problem.row.toInt
  columns : 0 ≤ arguments.problem.column.toInt
  leading : arguments.leadingWorkspace.toInt = arguments.problem.column.toInt
  stride : arguments.partitionStride.toInt =
    arguments.problem.row.toInt * arguments.problem.column.toInt

/-- What a reduction reads lies within its matrices. -/
theorem Dense.partialOffset_bounds (dense : arguments.Dense) {element : OutputElement}
    (member : element ∈ arguments.partials) : 0 ≤ arguments.partialOffset element ∧
      arguments.partialOffset element <
        arguments.partitions.toInt * arguments.partitionStride.toInt := by
  have within : element.Within _ _ _ := member
  have partition : (arguments.partitions.toInt.toNat : Int) = arguments.partitions.toInt :=
    Int.toNat_of_nonneg (by have := within.1; omega)
  have row := Int.toNat_of_nonneg dense.rows
  have column := Int.toNat_of_nonneg dense.columns
  have bound := within.offset_lt
  rw [partition, row, column, ← dense.stride] at bound
  refine ⟨?_, ?_⟩
  · rw [partialOffset, OutputElement.offset, dense.leading, dense.stride, ← row, ← column]
    positivity
  · rw [partialOffset, dense.leading]
    exact bound

end ReductionArguments

namespace ConvolutionOperation

variable {operation : ConvolutionOperation} {arguments : ConvolutionArguments}
  {workspace : DevicePointer}

theorem derivedArguments_dense (valid : arguments.problem.Valid) :
    (operation.derivedArguments arguments workspace).Dense := by
  obtain ⟨rows, columns, -⟩ := implicitGemm_positive operation valid
  exact ⟨rows.le, columns.le, Int32.toInt_toInt64 _, toInt_product _ _⟩

/-- The bytes of the partial sums are cut once, if at all. -/
theorem natCast_workspaceBytes (split : arguments.splitK = .parallel workspace)
    (valid : arguments.problem.Valid) : (operation.workspaceBytes arguments : Int) =
      min (arguments.problem.splitKSlices.toInt *
        ((operation.implicitGemm arguments.problem).m.toInt *
          (operation.implicitGemm arguments.problem).n.toInt) *
        operation.elementAccumulator.byteSize) (2 ^ 64 - 1) := by
  obtain ⟨rows, columns, -⟩ := implicitGemm_positive operation valid
  have some : 0 < (operation.implicitGemm arguments.problem).n.toInt.toNat := by omega
  have cut : operation.workspaceBytes arguments =
      min maxWord64 (arguments.problem.splitKSlices.toInt.toNat *
        ((operation.implicitGemm arguments.problem).m.toInt.toNat *
          (operation.implicitGemm arguments.problem).n.toInt.toNat) *
        operation.elementAccumulator.byteSize) := by
    unfold workspaceBytes
    simp only [split, max_one valid.slices]
    rw [min_mul_min some, min_mul_min (ElementType.byteSizePositive _), Nat.mul_assoc
      arguments.problem.splitKSlices.toInt.toNat]
  rw [cut, Nat.min_comm]
  push_cast
  rw [Int.toNat_of_nonneg valid.slices.le, Int.toNat_of_nonneg rows.le,
    Int.toNat_of_nonneg columns.le]
  rfl

/-- The last parameter of a parallel run is where it stores. -/
theorem pointer_suffix_packArguments {bytes : Bytes}
    (split : arguments.splitK = .parallel workspace)
    (packed : operation.packArguments arguments = .ok bytes) :
    word64 workspace.address <:+ bytes := by
  obtain ⟨-, packed⟩ := of_checked packed
  obtain ⟨listed, formed, packed⟩ := bound_iff.mp packed
  simp only [parameters, split] at formed
  obtain ⟨scalars, -, same⟩ := bound_iff.mp formed
  obtain rfl := Except.ok.inj same
  -- The workspace is the last of the four pointers.
  have last (front : List Parameter) := List.append_assoc front
    [.pointer arguments.pointerA, .pointer arguments.pointerB, .pointer arguments.pointerC]
    [.pointer workspace]
  exact ParameterBlock.pointer_suffix_finish (last _ ▸ mapError_ok.mp packed)

/-- The two stages of a parallel run agree on the workspace. -/
structure Agree (operation : ConvolutionOperation) (arguments : ConvolutionArguments)
    (workspace : DevicePointer) (reduction : ReductionArguments) : Prop where
  extents : (reduction.problem.row.toInt, reduction.problem.column.toInt) =
    operation.partialAccumulation.outputExtent arguments.problem
  partitions : reduction.partitions = arguments.problem.splitKSlices
  slices : ∀ launch, operation.partialAccumulation.launchConfig arguments = .ok launch →
    (launch.grid.z.toNat : Int) = reduction.partitions.toInt
  bytes : (operation.workspaceBytes arguments : Int) =
    min (reduction.partitions.toInt * reduction.partitionStride.toInt *
      operation.elementAccumulator.byteSize) (2 ^ 64 - 1)
  /-- All bytes of an element, from the first one to the last. -/
  inside : reduction.partitions.toInt * reduction.partitionStride.toInt *
      operation.elementAccumulator.byteSize < 2 ^ 64 →
    ∀ element ∈ reduction.partials, 0 ≤ reduction.partialOffset element ∧
      (reduction.partialOffset element + 1) * operation.elementAccumulator.byteSize ≤
        operation.workspaceBytes arguments
  stored : ∀ bytes, operation.partialAccumulation.packArguments arguments = .ok bytes →
    word64 workspace.address <:+ bytes
  read : reduction.workspace = workspace
  destination : reduction.destination = arguments.pointerD
  source : reduction.source = arguments.pointerC

theorem agree_of_valid (split : arguments.splitK = .parallel workspace)
    (valid : arguments.problem.Valid)
    (slices : ∀ launch, operation.partialAccumulation.launchConfig arguments = .ok launch →
      launch.grid.z.toNat = arguments.problem.splitKSlices.toInt.toNat) :
    operation.Agree arguments workspace (operation.derivedArguments arguments workspace) := by
  have dense : (operation.derivedArguments arguments workspace).Dense :=
    derivedArguments_dense valid
  have bytes : (operation.workspaceBytes arguments : Int) =
      min ((operation.derivedArguments arguments workspace).partitions.toInt *
        (operation.derivedArguments arguments workspace).partitionStride.toInt *
        operation.elementAccumulator.byteSize) (2 ^ 64 - 1) := by
    rw [dense.stride]
    exact natCast_workspaceBytes split valid
  constructor
  case extents => exact toInt_implicitGemm operation.partialAccumulation valid
  case partitions => rfl
  case slices =>
    intro launch launched
    rw [slices launch launched]
    exact Int.toNat_of_nonneg valid.slices.le
  case bytes => exact bytes
  case inside =>
    intro fits element member
    obtain ⟨natural, within⟩ := dense.partialOffset_bounds member
    rw [bytes, min_eq_left (Int.le_sub_one_of_lt fits)]
    exact ⟨natural, Int.mul_le_mul_of_nonneg_right (Int.add_one_le_of_lt within) (by positivity)⟩
  case stored => exact fun bytes packed => pointer_suffix_packArguments split packed
  case read => rfl
  case destination => rfl
  case source => rfl

/-- Arguments that the partial kernel accepts have a reduction that agrees with its launch on the
workspace. There is a launch unless the threads of a block or the bits of shared memory are no word,
and the parameters fill a block unless accumulators have no form as a scalar. -/
theorem stages_agree (made : operation.Made) (split : arguments.splitK = .parallel workspace)
    (accepted : operation.partialAccumulation.validateArguments arguments = .ok ()) :
    ∃ reduction, operation.reductionArguments arguments = .ok reduction ∧
      operation.Agree arguments workspace reduction ∧
      ((∃ launch, operation.partialAccumulation.launchConfig arguments = .ok launch) ↔
        operation.tile.Counted operation.a.element.bits operation.b.element.bits) ∧
      ((∃ bytes, operation.partialAccumulation.packArguments arguments = .ok bytes) ↔
        operation.elementAccumulator ≠ .s8 ∧ operation.elementAccumulator ≠ .u8) := by
  have ready := ready_of_accepted split accepted
  have launches := launchConfig_launches made.partialAccumulation accepted
  refine ⟨operation.derivedArguments arguments workspace,
    reductionArguments_parallel operation split ready.workspace,
    agree_of_valid split ready.valid fun launch launched => (launches.tiles launched).third,
    launches.exists_iff, ?_⟩
  rw [packArguments_ok]
  exact and_iff_right accepted

/-- Four slices of a product of 256 by 64 accumulators. -/
theorem stages_agree_sliced : ∃ (operation : ConvolutionOperation)
    (arguments : ConvolutionArguments) (reduction : ReductionArguments) (launch : LaunchConfig)
    (bytes : Bytes),
    Catalog.convolution 80 .f16 .fprop = .ok operation ∧
      operation.partialAccumulation.validateArguments arguments = .ok () ∧
      operation.reductionArguments arguments = .ok reduction ∧
      operation.partialAccumulation.launchConfig arguments = .ok launch ∧
      operation.Agree arguments ⟨4096⟩ reduction ∧
      operation.partialAccumulation.packArguments arguments = .ok bytes ∧
      launch.grid.z = 4 ∧ operation.workspaceBytes arguments = 262144 := by
  obtain ⟨operation, created⟩ : ∃ operation, Catalog.convolution 80 .f16 .fprop = .ok operation :=
    ⟨_, rfl⟩
  let arguments : ConvolutionArguments :=
    { problem := .ofExtents ⟨1, 16, 16, 64⟩ ⟨64, 3, 3, 64⟩ ⟨1, 1⟩ ⟨1, 1⟩ ⟨1, 1⟩ 0 4 1
      pointerA := ⟨1⟩, pointerB := ⟨1⟩, pointerC := ⟨1⟩, pointerD := ⟨1⟩
      splitK := .parallel ⟨4096⟩ }
  have accepted : operation.partialAccumulation.validateArguments arguments = .ok () := by
    cases created
    decide +kernel
  obtain ⟨reduction, derived, agree, counted, packs⟩ :=
    stages_agree (made_of_catalog created) rfl accepted
  obtain ⟨launch, launched⟩ := counted.mpr (by cases created; exact ⟨by decide, by decide⟩)
  obtain ⟨bytes, packed⟩ := packs.mpr (by cases created; decide)
  refine ⟨operation, arguments, reduction, launch, bytes, created, accepted, derived, launched, agree,
    packed, ?_, ?_⟩
  · have slices : (launch.grid.z.toNat : Int) = 4 := by
      rw [agree.slices launch launched, agree.partitions]
      rfl
    exact UInt32.toNat_inj.mp (Int.ofNat_inj.mp slices)
  · cases created
    decide +kernel

end ConvolutionOperation

end DeviceKernels
