import DeviceKernels.Device.Info
import DeviceKernels.Operation.Kernel

/-
Matrix products: universal, stream-K and grouped kernels. The module names and emits a kernel,
checks and packs the arguments of a launch and sizes its grid.
-/

namespace DeviceKernels

open Number Operation

structure GemmOperation where
  kind : GemmKind
  arch : UInt32
  tile : TileDescription
  a : OperandDescription
  b : OperandDescription
  c : OperandDescription
  epilogue : Epilogue
  swizzle : Swizzle
  deriving DecidableEq, Repr, Inhabited

/-- The arguments of a single or batched product `alpha * A * B + beta * C`. -/
structure GemmArguments where
  problem : GemmExtent
  pointerA : DevicePointer
  pointerB : DevicePointer
  pointerC : DevicePointer
  pointerD : DevicePointer
  leadingA : Int64
  leadingB : Int64
  leadingC : Int64
  leadingD : Int64
  alpha : Binary64 := .one
  beta : Binary64 := .zero
  batchCount : Int32 := 1
  splitKSlices : Int32 := 1
  deriving DecidableEq, Repr

/-- The arguments of a grouped product. The problems are the host's copy; the kernel reads the
device arrays. -/
structure GroupedGemmArguments where
  problems : List GemmExtent
  problemSizes : DevicePointer := .none
  pointerA : DevicePointer := .none
  pointerB : DevicePointer := .none
  pointerC : DevicePointer := .none
  pointerD : DevicePointer := .none
  leadingA : DevicePointer := .none
  leadingB : DevicePointer := .none
  leadingC : DevicePointer := .none
  leadingD : DevicePointer := .none
  alpha : Binary64 := .one
  beta : Binary64 := .zero
  /-- Replaces the default of one thread block per multiprocessor. -/
  threadblocks : Option UInt32 := none
  deriving DecidableEq, Repr

namespace GemmOperation

def checkMatrix (name : String) (operand : OperandDescription) : Except ArgumentError Unit := do
  checkOperand name operand
  requireDescriptor (operand.layout != .tensorNhwc) (.notMatrix name)

/-- A checked descriptor. A stream-K kernel has the stream-K swizzle, and any other kernel starts
with the identity. -/
def create (kind : GemmKind) (arch : UInt32) (tile : TileDescription)
    (a b c : OperandDescription) (epilogue : Epilogue) : Except ArgumentError GemmOperation := do
  checkTile tile
  checkMatrix "A" a
  checkMatrix "B" b
  checkMatrix "C" c
  requireDescriptor (c.element == epilogue.elementOutput)
    (.epilogueOutput epilogue.elementOutput c.element)
  let swizzle := if kind = .streamK then Swizzle.streamK else Swizzle.identity1
  .ok { kind, arch, tile, a, b, c, epilogue, swizzle }

/-- The stream-K swizzle belongs to stream-K kernels and to no other. -/
def withSwizzle (operation : GemmOperation) (swizzle : Swizzle) :
    Except ArgumentError GemmOperation := do
  requireDescriptor ((swizzle == .streamK) == (operation.kind == .streamK))
    (.swizzle swizzle operation.kind)
  .ok { operation with swizzle }

/-- The accumulator letter, the instruction shape and the word `gemm`. -/
def coreName (operation : GemmOperation) : String :=
  operation.tile.instruction.accumulatorLetter ++ operation.tile.instruction.shapeName ++ "gemm"

def proceduralName (operation : GemmOperation) : String :=
  "cutlass_sm" ++ Text.decimal operation.arch.toNat ++ "_" ++
    operation.tile.instruction.opcodeClass.shortName ++ "_" ++ operation.coreName ++ "_" ++
    operation.a.element.shortName ++ "_" ++ operation.c.element.shortName ++ "_" ++
    operation.tile.proceduralName ++ "_" ++ operation.a.layout.shortName ++
    operation.b.layout.shortName ++ "_align" ++ Text.decimal operation.a.alignment.toNat ++
    operation.epilogue.proceduralSuffix ++ operation.kind.suffix

/-- The template arguments that describe the operands. -/
def emitOperands (operation : GemmOperation) : List String :=
  [operation.a.element.tag ++ ", " ++ operation.a.layout.tag ++
      ", cutlass::ComplexTransform::kNone, " ++ Text.decimal operation.a.alignment.toNat,
    operation.b.element.tag ++ ", " ++ operation.b.layout.tag ++
      ", cutlass::ComplexTransform::kNone, " ++ Text.decimal operation.b.alignment.toNat,
    operation.c.element.tag ++ ", " ++ operation.c.layout.tag,
    operation.tile.instruction.elementAccumulator.tag]

/-- The template arguments that describe the instruction, the shapes and the epilogue. -/
def emitShapes (operation : GemmOperation) : List String :=
  [operation.tile.instruction.opcodeClass.tag,
    "cutlass::arch::Sm" ++ Text.decimal operation.arch.toNat,
    operation.tile.block.tag, operation.tile.warpShape.tag,
    operation.tile.instruction.emittedShape.tag, operation.epilogue.emit]

/-- The template arguments that describe the schedule. A grouped kernel has its own swizzle. -/
def emitSchedule (operation : GemmOperation) : List String :=
  let stages := Text.decimal operation.tile.stages.toNat
  let mathOperation := operation.tile.instruction.mathOperation.tag
  match operation.kind with
  | .grouped =>
      ["cutlass::gemm::threadblock::GemmBatchedIdentityThreadblockSwizzle", stages,
        "cutlass::gemm::kernel::GroupScheduleMode::kDeviceOnly", mathOperation]
  | _ => [operation.swizzle.tag, stages, mathOperation]

def template (operation : GemmOperation) : String :=
  match operation.kind with
  | .grouped => "DefaultGemmGrouped"
  | _ => "DefaultGemmUniversal"

/-- The template instantiation that defines the kernel. -/
def emit (operation : GemmOperation) : String :=
  let name := operation.proceduralName
  "// Gemm operator " ++ name ++ "\nusing " ++ name ++
    "_base =\n  typename cutlass::gemm::kernel::" ++ operation.template ++ "<\n    " ++
    Text.join ",\n    " (operation.emitOperands ++ operation.emitShapes ++
      operation.emitSchedule) ++
    "\n  >::GemmKernel;\n\n" ++ kernelEntry name

def sharedMemoryBytes (operation : GemmOperation) : Option UInt32 :=
  operation.tile.sharedMemoryBytes operation.a.element.bits operation.b.element.bits

def kernel (operation : GemmOperation) : Kernel where
  family := .gemm
  arch := operation.arch
  name := operation.proceduralName
  source := operation.emit
  sharedMemoryBytes := operation.sharedMemoryBytes

/-- Dense arguments: the leading dimensions follow from the layouts. -/
def arguments (operation : GemmOperation) (problem : GemmExtent)
    (pointerA pointerB pointerC pointerD : DevicePointer) : GemmArguments where
  problem := problem
  pointerA := pointerA
  pointerB := pointerB
  pointerC := pointerC
  pointerD := pointerD
  leadingA := operation.a.layout.leadingDimension problem.m.toInt64 problem.k.toInt64
  leadingB := operation.b.layout.leadingDimension problem.k.toInt64 problem.n.toInt64
  leadingC := operation.c.layout.leadingDimension problem.m.toInt64 problem.n.toInt64
  leadingD := operation.c.layout.leadingDimension problem.m.toInt64 problem.n.toInt64

/-- Checks one matrix: its leading dimension covers a line, and both the line and the leading
dimension are aligned. -/
def checkLeading (operand : OperandDescription) (what : String) (leading : Int64)
    (rows columns : Int) : Except ArgumentError Unit := do
  let extent := operand.contiguous rows columns
  checkLength what extent leading.toInt
  checkAligned "contiguous extent" extent operand.alignment
  checkAligned what leading.toInt operand.alignment

/-- Slices of the depth must not outnumber the tiles along it, and a stream-K kernel makes its
own. -/
def checkSlices (operation : GemmOperation) (arguments : GemmArguments) :
    Except ArgumentError Unit := do
  if 1 < arguments.splitKSlices then
    require (operation.kind != .streamK) .streamKSplit
    let tiles ← tilesCovering arguments.problem.k.toInt operation.tile.block.k
    require (arguments.splitKSlices.toInt ≤ tiles)
      (.tooManySlices arguments.splitKSlices arguments.problem.k operation.tile.block.k)

def validateArguments (operation : GemmOperation) (arguments : GemmArguments) :
    Except ArgumentError Unit := do
  require (operation.kind != .grouped) .groupedArguments
  let problem := arguments.problem
  require (!problem.isEmpty) (.extents problem)
  require (1 ≤ arguments.batchCount && 1 ≤ arguments.splitKSlices) .counts
  require (arguments.batchCount ≤ 1 || arguments.splitKSlices ≤ 1) .batchedSplit
  operation.checkSlices arguments
  checkLeading operation.a "lda" arguments.leadingA problem.m.toInt problem.k.toInt
  checkLeading operation.b "ldb" arguments.leadingB problem.k.toInt problem.n.toInt
  checkLeading operation.c "ldc" arguments.leadingC problem.m.toInt problem.n.toInt
  checkLeading operation.c "ldd" arguments.leadingD problem.m.toInt problem.n.toInt
  require (!arguments.pointerA.isNull && !arguments.pointerB.isNull &&
    !arguments.pointerD.isNull) .unboundOperands
  require (arguments.beta.isZero || !arguments.pointerC.isNull) .unboundSource

/-- Checks one problem of a group. -/
def checkGroupMember (operation : GemmOperation) (index : Nat) (problem : GemmExtent) :
    Except ArgumentError Unit := do
  require (!problem.isEmpty) (.groupExtents index problem)
  checkAligned "A contiguous extent"
    (operation.a.contiguous problem.m.toInt problem.k.toInt) operation.a.alignment
  checkAligned "B contiguous extent"
    (operation.b.contiguous problem.k.toInt problem.n.toInt) operation.b.alignment
  checkAligned "C contiguous extent"
    (operation.c.contiguous problem.m.toInt problem.n.toInt) operation.c.alignment

def checkGroup (operation : GemmOperation) :
    Nat → List GemmExtent → Except ArgumentError Unit
  | _, [] => .ok ()
  | index, problem :: rest => do
      operation.checkGroupMember index problem
      operation.checkGroup (index + 1) rest

end GemmOperation

/-- The device arrays in the order of the parameter block. -/
def GroupedGemmArguments.arrays (arguments : GroupedGemmArguments) : List DevicePointer :=
  [arguments.problemSizes, arguments.pointerA, arguments.pointerB, arguments.pointerC,
    arguments.pointerD, arguments.leadingA, arguments.leadingB, arguments.leadingC,
    arguments.leadingD]

/-- The image of the problem size array on the device. -/
def GroupedGemmArguments.problemSizesImage (arguments : GroupedGemmArguments) : Bytes :=
  arguments.problems.flatMap GemmExtent.image

/-- Dense strides of A, B, C and D between the members of a batch, in elements. -/
def GemmArguments.batchStrides (arguments : GemmArguments) : List Int64 :=
  let problem := arguments.problem
  let product : Int32 → Int32 → Int64 := fun first second =>
    Int64.ofInt (first.toInt * second.toInt)
  [product problem.m problem.k, product problem.k problem.n, product problem.m problem.n,
    product problem.m problem.n]

namespace GemmOperation

def validateGrouped (operation : GemmOperation) (arguments : GroupedGemmArguments) :
    Except ArgumentError Unit := do
  require (operation.kind == .grouped) (.notGrouped operation.kind)
  require (!arguments.problems.isEmpty) .noProblems
  operation.checkGroup 0 arguments.problems
  require (arguments.arrays.all fun pointer => !pointer.isNull) .unboundArrays

/-- The tiles along the rows and along the columns. -/
def tiles (operation : GemmOperation) (problem : GemmExtent) :
    Except ArgumentError (Int × Int) := do
  let rows ← tilesCovering problem.m.toInt operation.tile.block.m
  let columns ← tilesCovering problem.n.toInt operation.tile.block.n
  .ok (rows, columns)

/-- The output tiles of all problems of a group, summed up in 64-bit words. -/
def totalTiles (operation : GemmOperation) (problems : List GemmExtent) :
    Except ArgumentError Int64 :=
  problems.foldlM (fun total problem => do
    let (rows, columns) ← operation.tiles problem
    computed (Arithmetic.checked.word? (total.toInt + rows * columns))) 0

/-- The mode word and the count word: a batch count in batched mode, else the number of slices. -/
def modeAndCount (arguments : GemmArguments) : Int32 × Int32 :=
  if 1 < arguments.batchCount then (2, arguments.batchCount) else (0, arguments.splitKSlices)

/-- Mode, problem, count, scalars, pointers, batch strides and leading dimensions. -/
def parameters (operation : GemmOperation) (arguments : GemmArguments) :
    Except ArgumentError (List Parameter) := do
  let (mode, count) := modeAndCount arguments
  let scalars ← packScalars operation.epilogue arguments.alpha arguments.beta
  .ok ([.word32 mode, .gemm arguments.problem, .word32 count] ++ scalars ++
    [.pointer arguments.pointerA, .pointer arguments.pointerB, .pointer arguments.pointerC,
      .pointer arguments.pointerD] ++
    arguments.batchStrides.map .word64 ++
    [.word64 arguments.leadingA, .word64 arguments.leadingB, .word64 arguments.leadingC,
      .word64 arguments.leadingD])

def packArguments (operation : GemmOperation) (arguments : GemmArguments) :
    Except ArgumentError Bytes := do
  operation.validateArguments arguments
  pack (← operation.parameters arguments)

/-- A stream-K kernel runs at most one thread block per multiprocessor; any other kernel runs one
per tile, slice and batch member. -/
def launchConfig (operation : GemmOperation) (arguments : GemmArguments) (device : DeviceInfo) :
    Except ArgumentError LaunchConfig := do
  operation.validateArguments arguments
  let (rows, columns) ← operation.tiles arguments.problem
  match operation.kind with
  | .streamK =>
      let total ← computed
        (Arithmetic.checked.word? (rows * columns * arguments.batchCount.toInt))
      launchTiled operation.tile operation.sharedMemoryBytes
        (.linear (lowWord (min total.toInt (max device.multiprocessors 1).toNat)))
  | _ =>
      launchTiled operation.tile operation.sharedMemoryBytes
        (swizzledGrid rows columns operation.swizzle.logTile
          (arguments.splitKSlices * arguments.batchCount).toInt)

def packGrouped (operation : GemmOperation) (arguments : GroupedGemmArguments) :
    Except ArgumentError Bytes := do
  operation.validateGrouped arguments
  let scalars ← packScalars operation.epilogue arguments.alpha arguments.beta
  pack ([.word32 (Int32.ofNat arguments.problems.length)] ++ scalars ++
    arguments.arrays.map .pointer)

def launchGrouped (operation : GemmOperation) (arguments : GroupedGemmArguments)
    (device : DeviceInfo) : Except ArgumentError LaunchConfig := do
  operation.validateGrouped arguments
  launchTiled operation.tile operation.sharedMemoryBytes
    (.linear (max (arguments.threadblocks.getD device.multiprocessors) 1))

instance : JsonForm GemmOperation where
  toJson operation := .object
    [("kind", toJson operation.kind), ("arch", toJson operation.arch),
      ("tile", toJson operation.tile), ("a", toJson operation.a), ("b", toJson operation.b),
      ("c", toJson operation.c), ("epilogue", toJson operation.epilogue),
      ("swizzle", toJson operation.swizzle)]
  ofJson? json := do
    match ← json.record? ["kind", "arch", "tile", "a", "b", "c", "epilogue", "swizzle"] with
    | [kind, arch, tile, a, b, c, epilogue, swizzle] =>
        some
          { kind := ← Json.required? GemmKind kind
            arch := ← Json.required? UInt32 arch
            tile := ← Json.required? TileDescription tile
            a := ← Json.required? OperandDescription a
            b := ← Json.required? OperandDescription b
            c := ← Json.required? OperandDescription c
            epilogue := ← Json.required? Epilogue epilogue
            swizzle := ← Json.required? Swizzle swizzle }
    | _ => none

end GemmOperation

end DeviceKernels
