import DeviceKernels.Operation.Kernel

namespace DeviceKernels

open Number Operation

/-- The threads of a reduction block. -/
structure ThreadShape where
  rows : UInt32
  columns : UInt32
  deriving DecidableEq, Repr, Inhabited

instance : JsonForm ThreadShape where
  toJson shape := .object [("rows", toJson shape.rows), ("columns", toJson shape.columns)]
  ofJson? json := do
    match ← json.record? ["rows", "columns"] with
    | [rows, columns] =>
        some
          { rows := ← Json.required? UInt32 rows
            columns := ← Json.required? UInt32 columns }
    | _ => none

structure ReductionOperation where
  arch : UInt32
  elementAccumulator : ElementType
  shape : ThreadShape
  /-- Elements that a thread reduces per access. -/
  count : UInt32
  epilogue : Epilogue
  deriving DecidableEq, Repr, Inhabited

/-- The arguments of a reduction over a row-major matrix. Strides count elements. -/
structure ReductionArguments where
  problem : MatrixExtent
  partitions : Int32
  partitionStride : Int64
  workspace : DevicePointer
  destination : DevicePointer
  source : DevicePointer
  leadingWorkspace : Int64
  leadingDestination : Int64
  leadingSource : Int64
  alpha : Binary64 := .one
  beta : Binary64 := .zero
  deriving DecidableEq, Repr

namespace ReductionArguments

/-- Arguments for dense matrices. -/
def dense (problem : MatrixExtent) (partitions : Int32)
    (workspace destination source : DevicePointer) : ReductionArguments where
  problem := problem
  partitions := partitions
  partitionStride := Int64.ofInt (problem.row.toInt * problem.column.toInt)
  workspace := workspace
  destination := destination
  source := source
  leadingWorkspace := problem.column.toInt64
  leadingDestination := problem.column.toInt64
  leadingSource := problem.column.toInt64

end ReductionArguments

namespace ReductionOperation

/-- Partitions that are summed in one stage of the pipeline. -/
def partitionsPerStage : Nat := 4

/-- The reduction of an epilogue: four by thirty-two threads, one vector access each. -/
def create (arch : UInt32) (elementAccumulator : ElementType) (epilogue : Epilogue) :
    ReductionOperation where
  arch := arch
  elementAccumulator := elementAccumulator
  shape := ⟨4, 32⟩
  count := max epilogue.elementsPerAccess 1
  epilogue := epilogue

/-- The columns of one thread block. The program stops where they are no word. -/
def columnsPerBlock (operation : ReductionOperation) : Nat :=
  operation.shape.columns.toNat * operation.count.toNat

def proceduralName (operation : ReductionOperation) : String :=
  "cutlass_sm" ++ Text.decimal operation.arch.toNat ++ "_reduce_split_k_" ++
    operation.elementAccumulator.shortName ++ "_" ++
    operation.epilogue.elementOutput.shortName ++ "_" ++
    Text.decimal operation.count.toNat ++ "x" ++ Text.decimal operation.shape.rows.toNat ++
    "x" ++ Text.decimal operation.shape.columns.toNat ++ operation.epilogue.proceduralSuffix

def emit (operation : ReductionOperation) : String :=
  let name := operation.proceduralName
  let accumulator := operation.elementAccumulator.tag
  "// Reduction operator " ++ name ++ "\nusing " ++ name ++
    "_base = cutlass::reduction::kernel::ReduceSplitK<\n    cutlass::MatrixShape<" ++
    Text.decimal operation.shape.rows.toNat ++ ", " ++
    Text.decimal operation.columnsPerBlock ++ ">,\n    " ++ operation.epilogue.emit ++
    ",\n    cutlass::reduction::thread::ReduceAdd<" ++ accumulator ++ ", " ++ accumulator ++
    ", " ++ Text.decimal operation.count.toNat ++ ">,\n    " ++
    Text.decimal partitionsPerStage ++ "\n  >;\n\n" ++ kernelEntry name

def kernel (operation : ReductionOperation) : Kernel where
  family := .reduction
  arch := operation.arch
  name := operation.proceduralName
  source := operation.emit
  isWritable := (checked32 operation.columnsPerBlock).isSome
  sharedMemoryBytes := some 0

def checkLeading (operation : ReductionOperation) (what : String) (leading : Int64)
    (columns : Int) : Except ArgumentError Unit := do
  checkLength what columns leading.toInt
  checkAligned what leading.toInt operation.count

/-- Several partitions must not overlap. -/
def checkStride (arguments : ReductionArguments) : Except ArgumentError Unit := do
  if 1 < arguments.partitions then
    let least ← computed (Arithmetic.checked.word?
      (arguments.problem.row.toInt * arguments.leadingWorkspace.toInt))
    checkLength "partition_stride" least.toInt arguments.partitionStride.toInt

def validateArguments (operation : ReductionOperation) (arguments : ReductionArguments) :
    Except ArgumentError Unit := do
  let rows := arguments.problem.row.toInt
  let columns := arguments.problem.column.toInt
  require (0 < rows && 0 < columns) (.reductionExtent arguments.problem)
  require (1 ≤ arguments.partitions) .noPartitions
  checkAligned "columns" columns operation.count
  operation.checkLeading "ld_workspace" arguments.leadingWorkspace columns
  operation.checkLeading "ld_destination" arguments.leadingDestination columns
  operation.checkLeading "ld_source" arguments.leadingSource columns
  checkStride arguments
  require (!arguments.workspace.isNull && !arguments.destination.isNull) .unboundReduction
  require (arguments.beta.isZero || !arguments.source.isNull) .unboundReductionSource

/-- Problem, partitions, the three matrices with their strides, and the scalars. -/
def parameters (operation : ReductionOperation) (arguments : ReductionArguments) :
    Except ArgumentError (List Parameter) := do
  let scalars ← packScalars operation.epilogue arguments.alpha arguments.beta
  .ok ([.matrix arguments.problem, .word32 arguments.partitions,
    .word64 arguments.partitionStride, .pointer arguments.workspace,
    .word64 arguments.leadingWorkspace, .pointer arguments.destination,
    .word64 arguments.leadingDestination, .pointer arguments.source,
    .word64 arguments.leadingSource] ++ scalars)

def packArguments (operation : ReductionOperation) (arguments : ReductionArguments) :
    Except ArgumentError Bytes := do
  operation.validateArguments arguments
  pack (← operation.parameters arguments)

/-- One thread block for each block of rows and columns. -/
def launchConfig (operation : ReductionOperation) (arguments : ReductionArguments) :
    Except ArgumentError LaunchConfig := do
  operation.validateArguments arguments
  let width ← computed (checked32 operation.columnsPerBlock)
  let columns ← tilesCovering arguments.problem.column.toInt width
  let rows ← tilesCovering arguments.problem.row.toInt operation.shape.rows
  .ok ⟨⟨lowWord columns, lowWord rows, 1⟩,
    ⟨operation.shape.columns, operation.shape.rows, 1⟩, 0⟩

instance : JsonForm ReductionOperation where
  toJson operation := .object
    [("arch", toJson operation.arch),
      ("element_accumulator", toJson operation.elementAccumulator),
      ("shape", toJson operation.shape), ("count", toJson operation.count),
      ("epilogue", toJson operation.epilogue)]
  ofJson? json := do
    match ← json.record? ["arch", "element_accumulator", "shape", "count", "epilogue"] with
    | [arch, elementAccumulator, shape, count, epilogue] =>
        some
          { arch := ← Json.required? UInt32 arch
            elementAccumulator := ← Json.required? ElementType elementAccumulator
            shape := ← Json.required? ThreadShape shape
            count := ← Json.required? UInt32 count
            epilogue := ← Json.required? Epilogue epilogue }
    | _ => none

end ReductionOperation

end DeviceKernels
