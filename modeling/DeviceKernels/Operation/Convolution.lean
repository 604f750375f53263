import DeviceKernels.Operation.Gemm
import DeviceKernels.Operation.Reduction

/-
A parallel split-K convolution runs in two stages: the partial kernel writes raw accumulators to a
workspace, and a reduction sums them and applies the epilogue.
-/

namespace DeviceKernels

open Number Operation

/-- Forward propagation, the gradient of the data and the gradient of the weights. -/
inductive ConvolutionKind where
  | fprop
  | dgrad
  | wgrad
  deriving DecidableEq, Repr, Inhabited

namespace ConvolutionKind

def shortName : ConvolutionKind → String
  | fprop => "fprop"
  | dgrad => "dgrad"
  | wgrad => "wgrad"

def template : ConvolutionKind → String
  | fprop => "DefaultConv2dFprop"
  | dgrad => "DefaultConv2dDgrad"
  | wgrad => "DefaultConv2dWgrad"

instance : Named ConvolutionKind := ⟨[fprop, dgrad, wgrad], shortName⟩

end ConvolutionKind

/-- How a kernel walks over the filter positions. Fixed channels equal the alignment of A, and few
channels are a small multiple of it. -/
inductive IteratorAlgorithm where
  | analytic
  | optimized
  | fixedChannels
  | fewChannels
  deriving DecidableEq, Repr, Inhabited

namespace IteratorAlgorithm

def shortName : IteratorAlgorithm → String
  | analytic => "analytic"
  | optimized => "optimized"
  | fixedChannels => "fixed_channels"
  | fewChannels => "few_channels"

def tag : IteratorAlgorithm → String
  | analytic => "cutlass::conv::IteratorAlgorithm::kAnalytic"
  | optimized => "cutlass::conv::IteratorAlgorithm::kOptimized"
  | fixedChannels => "cutlass::conv::IteratorAlgorithm::kFixedChannels"
  | fewChannels => "cutlass::conv::IteratorAlgorithm::kFewChannels"

/-- Whether the algorithm exists for forward propagation only. -/
def isForwardOnly : IteratorAlgorithm → Bool
  | fixedChannels => true
  | fewChannels => true
  | _ => false

instance : Named IteratorAlgorithm := ⟨[analytic, optimized, fixedChannels, fewChannels], shortName⟩

end IteratorAlgorithm

inductive StrideSupport where
  | strided
  | unity
  deriving DecidableEq, Repr, Inhabited

namespace StrideSupport

def tag : StrideSupport → String
  | strided => "cutlass::conv::StrideSupport::kStrided"
  | unity => "cutlass::conv::StrideSupport::kUnity"

/-- What a procedural name ends with. -/
def suffix : StrideSupport → String
  | strided => ""
  | unity => "_unity_stride"

instance : Named StrideSupport where
  all := [strided, unity]
  name
    | strided => "strided"
    | unity => "unity"

end StrideSupport

structure ConvolutionOperation where
  kind : ConvolutionKind
  iterator : IteratorAlgorithm
  arch : UInt32
  tile : TileDescription
  a : OperandDescription
  b : OperandDescription
  c : OperandDescription
  epilogue : Epilogue
  swizzle : Swizzle
  strideSupport : StrideSupport
  deriving DecidableEq, Repr, Inhabited

/-- Slices accumulate into the output in turn, or into a workspace that a second kernel reduces. -/
inductive SplitKMode where
  | serial
  | parallel (workspace : DevicePointer)
  deriving DecidableEq, Repr

structure ConvolutionArguments where
  problem : ConvolutionProblem
  pointerA : DevicePointer
  pointerB : DevicePointer
  pointerC : DevicePointer
  pointerD : DevicePointer
  alpha : Binary64 := .one
  beta : Binary64 := .zero
  splitK : SplitKMode := .serial
  deriving DecidableEq, Repr

namespace ConvolutionArguments

/-- The mode word: zero for a single slice. -/
def modeValue (arguments : ConvolutionArguments) : Int32 :=
  if arguments.problem.splitKSlices ≤ 1 then 0
  else
    match arguments.splitK with
    | .serial => 1
    | .parallel _ => 2

end ConvolutionArguments

namespace ConvolutionOperation

def checkImage (name : String) (operand : OperandDescription) : Except ArgumentError Unit := do
  checkOperand name operand
  requireDescriptor (operand.layout == .tensorNhwc) (.notNhwc name)

/-- A checked descriptor with the identity swizzle and support for strides. -/
def create (kind : ConvolutionKind) (iterator : IteratorAlgorithm) (arch : UInt32)
    (tile : TileDescription) (a b c : OperandDescription) (epilogue : Epilogue) :
    Except ArgumentError ConvolutionOperation := do
  checkTile tile
  checkImage "A" a
  checkImage "B" b
  checkImage "C" c
  requireDescriptor (c.element == epilogue.elementOutput)
    (.epilogueOutput epilogue.elementOutput c.element)
  requireDescriptor (!iterator.isForwardOnly || kind == .fprop)
    (.forwardIterator iterator.shortName)
  .ok
    { kind, iterator, arch, tile, a, b, c, epilogue
      swizzle := .identity1
      strideSupport := .strided }

def withSwizzle (operation : ConvolutionOperation) (swizzle : Swizzle) :
    Except ArgumentError ConvolutionOperation := do
  requireDescriptor (swizzle != .streamK) .streamKConvolution
  .ok { operation with swizzle }

def withStrideSupport (operation : ConvolutionOperation) (strideSupport : StrideSupport) :
    ConvolutionOperation :=
  { operation with strideSupport }

def elementAccumulator (operation : ConvolutionOperation) : ElementType :=
  operation.tile.instruction.elementAccumulator

/-- A product of extents in 64-bit words, cut to a word. It is exact for the extents of an accepted
problem; beyond the 64-bit words only the low-order bits are left of it. -/
def extentProduct (first second third : Int32) : Int32 :=
  let product := (Int64.ofInt (first.toInt * second.toInt * third.toInt)).toInt
  if Int32.minValue.toInt ≤ product ∧ product ≤ Int32.maxValue.toInt then Int32.ofInt product
  else Int32.maxValue

/-- The matrix product that a convolution maps onto. -/
def implicitGemm (operation : ConvolutionOperation) (problem : ConvolutionProblem) : GemmExtent :=
  let outputs := extentProduct problem.n problem.p problem.q
  let inputs := extentProduct problem.n problem.h problem.w
  let window := extentProduct problem.r problem.s problem.channelsPerGroup
  match operation.kind with
  | .fprop => ⟨outputs, problem.k, window⟩
  | .dgrad => ⟨inputs, problem.c, extentProduct problem.k problem.r problem.s⟩
  | .wgrad => ⟨problem.k, window, outputs⟩

/-- The elements that the first stage of a parallel split-K convolution stores at a time, if an
accumulator is no larger. The program stops where this is no word. -/
def storeReach (operation : ConvolutionOperation) : Nat := (max operation.c.alignment 1).toNat * 4

/-- The first stage of a parallel split-K convolution: it stores raw accumulators, up to 128 bits
at a time. -/
def partialAccumulation (operation : ConvolutionOperation) : ConvolutionOperation :=
  let accumulator := operation.elementAccumulator
  let perAccess := UInt32.ofNat (max (min (128 / accumulator.bits) operation.storeReach) 1)
  { operation with
    c := ⟨accumulator, .tensorNhwc, perAccess⟩
    epilogue := .linearCombination accumulator perAccess accumulator accumulator }

/-- The second stage of a parallel split-K convolution. -/
def splitKReduction (operation : ConvolutionOperation) : ReductionOperation :=
  .create operation.arch operation.elementAccumulator operation.epilogue

/-- The bytes of the partial sums, cut to a 64-bit word; a serial run needs none. -/
def workspaceBytes (operation : ConvolutionOperation) (arguments : ConvolutionArguments) : Nat :=
  match arguments.splitK with
  | .serial => 0
  | .parallel _ =>
      let gemm := operation.implicitGemm arguments.problem
      let slices := (max arguments.problem.splitKSlices 1).toInt.toNat
      min maxWord64 (min maxWord64 (min maxWord64 (slices * gemm.m.toInt.toNat) *
        gemm.n.toInt.toNat) * operation.elementAccumulator.byteSize)

/-- The arguments of the reduction that completes a parallel run. -/
def reductionArguments (operation : ConvolutionOperation) (arguments : ConvolutionArguments) :
    Except ArgumentError ReductionArguments :=
  match arguments.splitK with
  | .serial => .error (.problem .serialReduction)
  | .parallel workspace => do
      require (!workspace.isNull) .unboundWorkspace
      let gemm := operation.implicitGemm arguments.problem
      .ok
        { ReductionArguments.dense ⟨gemm.m, gemm.n⟩ arguments.problem.splitKSlices workspace
            arguments.pointerD arguments.pointerC with
          alpha := arguments.alpha
          beta := arguments.beta }

/-- The channels of A, B and C. -/
def channels (operation : ConvolutionOperation) (problem : ConvolutionProblem) :
    Int32 × Int32 × Int32 :=
  match operation.kind with
  | .fprop => (problem.c, problem.c, problem.k)
  | .dgrad => (problem.k, problem.c, problem.c)
  | .wgrad => (problem.k, problem.c, problem.c)

/-- A fixed-channel kernel takes exactly the channels of one access. -/
def checkFixedChannels (operation : ConvolutionOperation) (problem : ConvolutionProblem) :
    Except ArgumentError Unit :=
  if operation.iterator = .fixedChannels ∧ problem.c.toUInt32 ≠ operation.a.alignment then
    .error (.channels operation.a.alignment problem.c)
  else .ok ()

/-- A parallel run needs the partial kernel and a workspace. -/
def checkSplitK (operation : ConvolutionOperation) (arguments : ConvolutionArguments) :
    Except ArgumentError Unit :=
  match arguments.splitK with
  | .serial => .ok ()
  | .parallel workspace => do
      require (operation.c.element == operation.elementAccumulator) .notPartialKernel
      require (!workspace.isNull) .unboundWorkspace

def validateArguments (operation : ConvolutionOperation) (arguments : ConvolutionArguments) :
    Except ArgumentError Unit := do
  let problem := arguments.problem
  problem.validate.mapError fun fault => .problem (.convolution fault)
  require (operation.strideSupport != .unity || problem.hasUnitStride)
    (.unityStride problem.stride)
  let (channelsA, channelsB, channelsC) := operation.channels problem
  checkAligned "A channels" channelsA.toInt operation.a.alignment
  checkAligned "B channels" channelsB.toInt operation.b.alignment
  checkAligned "C channels" channelsC.toInt operation.c.alignment
  operation.checkFixedChannels problem
  let gemm := operation.implicitGemm problem
  let slices ← tilesCovering gemm.k.toInt operation.tile.block.k
  require (problem.splitKSlices.toInt ≤ slices)
    (.tooManyConvolutionSlices problem.splitKSlices gemm.k)
  require (!arguments.pointerA.isNull && !arguments.pointerB.isNull &&
    !arguments.pointerD.isNull) .unboundOperands
  require (arguments.beta.isZero || !arguments.pointerC.isNull) .unboundSource
  operation.checkSplitK arguments

def coreName (operation : ConvolutionOperation) : String :=
  operation.tile.instruction.accumulatorLetter ++ operation.tile.instruction.shapeName ++
    operation.kind.shortName

def proceduralName (operation : ConvolutionOperation) : String :=
  "cutlass_sm" ++ Text.decimal operation.arch.toNat ++ "_" ++
    operation.tile.instruction.opcodeClass.shortName ++ "_" ++ operation.coreName ++ "_" ++
    operation.iterator.shortName ++ "_" ++ operation.a.element.shortName ++ "_" ++
    operation.c.element.shortName ++ "_" ++ operation.tile.proceduralName ++ "_nhwc_align" ++
    Text.decimal operation.a.alignment.toNat ++ operation.epilogue.proceduralSuffix ++
    operation.strideSupport.suffix

/-- The template arguments in order. -/
def emitArguments (operation : ConvolutionOperation) : List String :=
  [operation.a.element.tag, operation.a.layout.tag, operation.b.element.tag,
    operation.b.layout.tag, operation.c.element.tag, operation.c.layout.tag,
    operation.elementAccumulator.tag, operation.tile.instruction.opcodeClass.tag,
    "cutlass::arch::Sm" ++ Text.decimal operation.arch.toNat, operation.tile.block.tag,
    operation.tile.warpShape.tag, operation.tile.instruction.emittedShape.tag,
    operation.epilogue.emit, operation.swizzle.tag, Text.decimal operation.tile.stages.toNat,
    operation.tile.instruction.mathOperation.tag, operation.iterator.tag,
    operation.strideSupport.tag, Text.decimal operation.a.alignment.toNat,
    Text.decimal operation.b.alignment.toNat]

def emit (operation : ConvolutionOperation) : String :=
  let name := operation.proceduralName
  "// Conv2d" ++ operation.kind.shortName ++ " operator " ++ name ++ "\nusing " ++ name ++
    "_base =\n  typename cutlass::conv::kernel::" ++ operation.kind.template ++ "<\n    " ++
    Text.join ",\n    " operation.emitArguments ++ "\n  >::Kernel;\n\n" ++ kernelEntry name

def sharedMemoryBytes (operation : ConvolutionOperation) : Option UInt32 :=
  operation.tile.sharedMemoryBytes operation.a.element.bits operation.b.element.bits

def kernel (operation : ConvolutionOperation) : Kernel where
  family := .convolution
  arch := operation.arch
  name := operation.proceduralName
  source := operation.emit
  sharedMemoryBytes := operation.sharedMemoryBytes

/-- Problem, mode, scalars and pointers. A parallel run writes raw partial sums to the workspace,
with a unit factor and no source. -/
def parameters (operation : ConvolutionOperation) (arguments : ConvolutionArguments) :
    Except ArgumentError (List Parameter) := do
  let (alpha, beta, pointerD) :=
    match arguments.splitK with
    | .serial => (arguments.alpha, arguments.beta, arguments.pointerD)
    | .parallel workspace => (.one, .zero, workspace)
  let scalars ← packScalars operation.epilogue alpha beta
  .ok ([.convolution arguments.problem, .word32 arguments.modeValue] ++ scalars ++
    [.pointer arguments.pointerA, .pointer arguments.pointerB, .pointer arguments.pointerC,
      .pointer pointerD])

def packArguments (operation : ConvolutionOperation) (arguments : ConvolutionArguments) :
    Except ArgumentError Bytes := do
  operation.validateArguments arguments
  pack (← operation.parameters arguments)

def launchConfig (operation : ConvolutionOperation) (arguments : ConvolutionArguments) :
    Except ArgumentError LaunchConfig := do
  operation.validateArguments arguments
  let gemm := operation.implicitGemm arguments.problem
  let rows ← tilesCovering gemm.m.toInt operation.tile.block.m
  let columns ← tilesCovering gemm.n.toInt operation.tile.block.n
  launchTiled operation.tile operation.sharedMemoryBytes
    (swizzledGrid rows columns operation.swizzle.logTile
      (max arguments.problem.splitKSlices 1).toInt)

instance : JsonForm ConvolutionOperation where
  toJson operation := .object
    [("conv_kind", toJson operation.kind), ("iterator_algorithm", toJson operation.iterator),
      ("arch", toJson operation.arch), ("tile", toJson operation.tile),
      ("a", toJson operation.a), ("b", toJson operation.b), ("c", toJson operation.c),
      ("epilogue", toJson operation.epilogue), ("swizzle", toJson operation.swizzle),
      ("stride_support", toJson operation.strideSupport)]
  ofJson? json := do
    match ← json.record? ["conv_kind", "iterator_algorithm", "arch", "tile", "a", "b", "c",
      "epilogue", "swizzle", "stride_support"] with
    | [kind, iterator, arch, tile, a, b, c, epilogue, swizzle, strideSupport] =>
        some
          { kind := ← Json.required? ConvolutionKind kind
            iterator := ← Json.required? IteratorAlgorithm iterator
            arch := ← Json.required? UInt32 arch
            tile := ← Json.required? TileDescription tile
            a := ← Json.required? OperandDescription a
            b := ← Json.required? OperandDescription b
            c := ← Json.required? OperandDescription c
            epilogue := ← Json.required? Epilogue epilogue
            swizzle := ← Json.required? Swizzle swizzle
            strideSupport := ← Json.required? StrideSupport strideSupport }
    | _ => none

end ConvolutionOperation

end DeviceKernels
