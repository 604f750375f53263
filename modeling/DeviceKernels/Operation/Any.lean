import DeviceKernels.Operation.Convolution

namespace DeviceKernels

/-- A described operation, or a kernel that was made by hand. -/
inductive Operation where
  | gemm (operation : GemmOperation)
  | convolution (operation : ConvolutionOperation)
  | reduction (operation : ReductionOperation)
  | custom (made : Kernel)
  deriving DecidableEq, Repr

namespace Operation

def toKernel : Operation → Kernel
  | gemm operation => operation.kernel
  | convolution operation => operation.kernel
  | reduction operation => operation.kernel
  | custom made => made

/-- The descriptor; a kernel made by hand has none. -/
def descriptor : Operation → Json
  | gemm operation => toJson operation
  | convolution operation => toJson operation
  | reduction operation => toJson operation
  | custom _ => .null

end Operation

end DeviceKernels
