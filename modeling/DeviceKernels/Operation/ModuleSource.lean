import DeviceKernels.Operation.Kernel

namespace DeviceKernels

/-- What every module begins with. The macro exports an entry point that runs one kernel type with
its dynamic shared memory. -/
def moduleHeader : String := Text.join "\n"
  ["// Generated by kernel-forge. Do not edit.",
    "#include \"cutlass/cutlass.h\"",
    "#include \"cutlass/gemm/device/gemm_universal.h\"",
    "#include \"cutlass/gemm/kernel/default_gemm_universal.h\"",
    "#include \"cutlass/gemm/kernel/default_gemm_grouped.h\"",
    "#include \"cutlass/conv/kernel/default_conv2d_fprop.h\"",
    "#include \"cutlass/conv/kernel/default_conv2d_dgrad.h\"",
    "#include \"cutlass/conv/kernel/default_conv2d_wgrad.h\"",
    "#include \"cutlass/reduction/kernel/reduce_split_k.h\"",
    "#include \"cutlass/reduction/thread/reduction_operators.h\"",
    "",
    "#define FORGE_KERNEL_ENTRY(NAME, TYPE)                                    \\",
    "  extern \"C\" __global__ void NAME(typename TYPE::Params params) \x7b         \\",
    "    extern __shared__ int forge_smem[];                                   \\",
    "    TYPE op;                                                              \\",
    "    op(params, *reinterpret_cast<typename TYPE::SharedStorage*>(forge_smem)); \\",
    "  \x7d",
    "",
    ""]

structure ModuleSource where
  source : String
  /-- The exported symbols in the order of the source. -/
  symbols : List String
  deriving DecidableEq, Repr

namespace ModuleSource

/-- The kernels without those whose name has been seen before. -/
def distinct : List String → List Kernel → List Kernel
  | _, [] => []
  | seen, kernel :: rest =>
      if seen.contains kernel.name then distinct seen rest
      else kernel :: distinct (kernel.name :: seen) rest

/-- The kernels of a module without its header. -/
def body (kernels : List Kernel) : String :=
  String.join ((distinct [] kernels).map fun kernel => kernel.source ++ "\n")

/-- One module for a list of kernels; an empty list makes no module. -/
def ofKernels? (kernels : List Kernel) : Option ModuleSource :=
  if kernels.isEmpty then none
  else some ⟨moduleHeader ++ body kernels, (distinct [] kernels).map Kernel.symbol⟩

end ModuleSource

end DeviceKernels
