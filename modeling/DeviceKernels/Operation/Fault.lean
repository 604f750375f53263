import DeviceKernels.Descriptor.Operand
import DeviceKernels.Descriptor.Tile
import DeviceKernels.Extent.Convolution
import DeviceKernels.Parameter.Block

namespace DeviceKernels

/-- The three kinds of matrix product. -/
inductive GemmKind where
  | universal
  | streamK
  | grouped
  deriving DecidableEq, Repr, Inhabited

namespace GemmKind

/-- The name in a message. -/
def label : GemmKind → String
  | universal => "Universal"
  | streamK => "StreamK"
  | grouped => "Grouped"

/-- What a procedural name ends with. -/
def suffix : GemmKind → String
  | universal => ""
  | streamK => "_streamk"
  | grouped => "_grouped"

instance : Named GemmKind where
  all := [universal, streamK, grouped]
  name
    | universal => "universal"
    | streamK => "stream_k"
    | grouped => "grouped"

end GemmKind

inductive DescriptorFault where
  | tile (fault : TileFault)
  | operand (name : String) (fault : OperandFault)
  | notMatrix (name : String)
  | notNhwc (name : String)
  | epilogueOutput (written stored : ElementType)
  | swizzle (chosen : Swizzle) (kind : GemmKind)
  | streamKConvolution
  | forwardIterator (name : String)
  | noCatalogTile (element : ElementType)
  deriving DecidableEq, Repr

def DescriptorFault.message : DescriptorFault → String
  | tile fault => fault.message
  | operand name fault => "operand " ++ name ++ ": " ++ fault.message
  | notMatrix name => "operand " ++ name ++ " must be a matrix layout"
  | notNhwc name => "operand " ++ name ++ " must be NHWC"
  | epilogueOutput written stored =>
      "epilogue writes " ++ written.shortName ++ " but C is " ++ stored.shortName
  | swizzle chosen kind =>
      "swizzle " ++ chosen.label ++ " does not match " ++ kind.label ++ " kernel"
  | streamKConvolution => "stream-K is not available for convolutions"
  | forwardIterator name => name ++ " iterators only exist for fprop"
  | noCatalogTile element => "no catalog tile for " ++ element.shortName

inductive ProblemFault where
  | groupedArguments
  | extents (problem : GemmExtent)
  | counts
  | batchedSplit
  | streamKSplit
  | tooManySlices (slices depth : Int32) (tileDepth : UInt32)
  | unboundOperands
  | unboundSource
  | notGrouped (kind : GemmKind)
  | noProblems
  | groupExtents (index : Nat) (problem : GemmExtent)
  | unboundArrays
  | convolution (fault : ConvolutionFault)
  | unityStride (stride : ImagePair)
  | tooManyConvolutionSlices (slices depth : Int32)
  | notPartialKernel
  | unboundWorkspace
  | serialReduction
  | reductionExtent (extent : MatrixExtent)
  | noPartitions
  | unboundReduction
  | unboundReductionSource
  deriving DecidableEq, Repr

def ProblemFault.message : ProblemFault → String
  | groupedArguments => "grouped GEMM takes GroupedGemmArguments"
  | extents problem => "extents must be positive, got " ++ problem.label
  | counts => "batch_count and split_k_slices must be at least 1"
  | batchedSplit => "split-K cannot be combined with batching"
  | streamKSplit => "stream-K kernels partition K themselves"
  | tooManySlices slices depth tileDepth =>
      Text.signedDecimal slices.toInt ++ " split-K slices for K = " ++
        Text.signedDecimal depth.toInt ++ " with " ++ Text.decimal tileDepth.toNat ++
        "-deep tiles"
  | unboundOperands => "A, B and D must be bound"
  | unboundSource => "beta != 0 needs a C operand"
  | notGrouped kind => kind.label ++ " GEMM takes GemmArguments"
  | noProblems => "grouped GEMM has no problems"
  | groupExtents index problem =>
      "problem " ++ Text.decimal index ++ " has extents " ++ problem.label
  | unboundArrays => "grouped GEMM device arrays must all be bound"
  | convolution fault => fault.message
  | unityStride stride =>
      "unity-stride kernel given stride " ++ Text.signedDecimal stride.height.toInt ++ "x" ++
        Text.signedDecimal stride.width.toInt
  | tooManyConvolutionSlices slices depth =>
      Text.signedDecimal slices.toInt ++ " split-K slices for implicit GEMM K = " ++
        Text.signedDecimal depth.toInt
  | notPartialKernel => "parallel split-K runs the partial accumulation kernel"
  | unboundWorkspace => "parallel split-K needs a workspace"
  | serialReduction => "reduction only follows parallel split-K"
  | reductionExtent extent =>
      "reduction extent " ++ Text.signedDecimal extent.row.toInt ++ "x" ++
        Text.signedDecimal extent.column.toInt ++ " must be positive"
  | noPartitions => "at least one partition required"
  | unboundReduction => "workspace and destination must be bound"
  | unboundReductionSource => "beta != 0 needs a source"

inductive ArgumentError where
  | unsupportedScalar (element : ElementType)
  | problem (fault : ProblemFault)
  | descriptor (fault : DescriptorFault)
  | misaligned (what : String) (value : Int) (alignment : UInt32)
  | tooShort (what : String) (least actual : Int)
  | channels (expected : UInt32) (actual : Int32)
  | tooLarge (size : Nat)
  /-- A tile without extent covers no output. -/
  | emptyTile
  /-- A number on the way is no word, and the program stopped. -/
  | stopped
  deriving DecidableEq, Repr

def ArgumentError.message : ArgumentError → String
  | unsupportedScalar element => "Scalar of type " ++ element.shortName ++ " is not supported"
  | problem fault => "Invalid problem: " ++ fault.message
  | descriptor fault => "Invalid operation descriptor: " ++ fault.message
  | misaligned what value alignment =>
      what ++ " = " ++ Text.signedDecimal value ++ " is not a multiple of alignment " ++
        Text.decimal alignment.toNat
  | tooShort what least actual =>
      "Shape mismatch: expected " ++ what ++ " >= " ++ Text.signedDecimal least ++ ", got " ++
        Text.signedDecimal actual
  | channels expected actual =>
      "Shape mismatch: expected C == " ++ Text.decimal expected.toNat ++ ", got " ++
        Text.signedDecimal actual.toInt
  | tooLarge size =>
      "Parameter block of " ++ Text.decimal size ++ " bytes exceeds limit of " ++
        Text.decimal parameterLimit
  | emptyTile => "a tile without extent covers no output"
  | stopped => "attempt to multiply with overflow"

end DeviceKernels
