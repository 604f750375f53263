import DeviceKernels.Extent.Convolution
import DeviceKernels.Parameter.Scalar

/-
Parameter blocks of kernel launches. A value stands at the next multiple of its alignment, the
gaps are zero, and the block is padded to the strictest alignment seen.
-/

namespace DeviceKernels

open Number

/-- A device address; zero is no address. -/
structure DevicePointer where
  address : UInt64
  deriving DecidableEq, Repr, Inhabited

namespace DevicePointer

def none : DevicePointer := ⟨0⟩

def isNull (pointer : DevicePointer) : Bool := pointer.address == 0

end DevicePointer

/-- A value of a parameter block. -/
inductive Parameter where
  | word32 (value : Int32)
  | word64 (value : Int64)
  | pointer (value : DevicePointer)
  | scalar (value : Scalar)
  | gemm (extent : GemmExtent)
  | matrix (extent : MatrixExtent)
  | tensor (extent : TensorExtent)
  | launch (extent : LaunchExtent)
  | convolution (problem : ConvolutionProblem)
  deriving DecidableEq, Repr

namespace Parameter

def image : Parameter → Bytes
  | word32 value => signedWord32 value
  | word64 value => signedWord64 value
  | pointer value => Number.word64 value.address
  | scalar value => value.image
  | gemm extent => extent.image
  | matrix extent => extent.image
  | tensor extent => extent.image
  | launch extent => extent.image
  | convolution problem => problem.image

/-- A record of 32-bit words is aligned like one word. -/
def alignment : Parameter → Nat
  | word64 _ => 8
  | pointer _ => 8
  | scalar value => value.byteSize
  | _ => 4

end Parameter

/-- The largest block that a launch accepts. -/
def parameterLimit : Nat := 4096

structure ParameterBlock where
  bytes : Bytes
  alignment : Nat
  deriving DecidableEq, Repr

namespace ParameterBlock

def empty : ParameterBlock := ⟨[], 1⟩

/-- Pads the block with zeros to a multiple of an alignment. -/
def alignTo (block : ParameterBlock) (alignment : Nat) : ParameterBlock where
  bytes := block.bytes ++
    List.replicate (roundUp block.bytes.length alignment - block.bytes.length) 0
  alignment := max block.alignment alignment

def push (block : ParameterBlock) (parameter : Parameter) : ParameterBlock :=
  let aligned := block.alignTo parameter.alignment
  { aligned with bytes := aligned.bytes ++ parameter.image }

def ofParameters (parameters : List Parameter) : ParameterBlock := parameters.foldl push empty

def length (block : ParameterBlock) : Nat := block.bytes.length

/-- The padded block, or its size when it exceeds the limit. -/
def finish (block : ParameterBlock) : Except Nat Bytes :=
  let padded := (block.alignTo block.alignment).bytes
  if parameterLimit < padded.length then .error padded.length else .ok padded

end ParameterBlock

end DeviceKernels
