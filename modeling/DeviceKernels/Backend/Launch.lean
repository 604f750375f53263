import DeviceKernels.Artifact.Cache
import DeviceKernels.Operation.Any

/-
Launches of loaded kernels. A recorder checks a launch and keeps a record of it.
-/

namespace DeviceKernels

inductive LaunchError where
  | notLoaded (kernel : String)
  | emptyGrid
  | threadsPerBlock (threads : Nat)
  /-- The members of an extent are no word, and the program stopped. -/
  | stopped
  deriving DecidableEq, Repr

def maxThreadsPerBlock : Nat := 1024

def LaunchError.message : LaunchError → String
  | notLoaded kernel => "Kernel not loaded: " ++ kernel
  | emptyGrid => "Invalid launch configuration: empty grid"
  | threadsPerBlock threads =>
      "Invalid launch configuration: " ++ Text.decimal threads ++
        " threads per block (max " ++ Text.decimal maxThreadsPerBlock ++ ")"
  | stopped => "attempt to multiply with overflow"

structure LaunchRecord where
  kernel : String
  launch : LaunchConfig
  parameters : Bytes
  deriving DecidableEq, Repr

/-- The records of all launches, the first one first. -/
structure LaunchLog where
  records : List LaunchRecord
  deriving DecidableEq, Repr

namespace LaunchLog

def empty : LaunchLog := ⟨[]⟩

/-- Records a launch of a kernel that its artifact exports, with a grid and a block that are not
empty. -/
def record (log : LaunchLog) (kernel : KernelHandle) (launch : LaunchConfig)
    (parameters : Bytes) : Except LaunchError LaunchLog :=
  let blocks := launch.grid.volume
  let threads := launch.block.volume
  if !kernel.isExported then .error (.notLoaded kernel.name)
  else if Number.maxWord64 < blocks then .error .stopped
  else if blocks == 0 then .error .emptyGrid
  else if Number.maxWord64 < threads then .error .stopped
  else if threads == 0 || maxThreadsPerBlock < threads then .error (.threadsPerBlock threads)
  else .ok ⟨log.records ++ [⟨kernel.name, launch, parameters⟩]⟩

end LaunchLog

/-- A kernel with its packed arguments and the launch that they ask for on a device. -/
structure LaunchRequest where
  kernel : Kernel
  parameters : Except ArgumentError Bytes
  launch : DeviceInfo → Except ArgumentError LaunchConfig

def GemmOperation.request (operation : GemmOperation) (arguments : GemmArguments) :
    LaunchRequest where
  kernel := operation.kernel
  parameters := operation.packArguments arguments
  launch device := operation.launchConfig arguments device

def GemmOperation.groupedRequest (operation : GemmOperation) (arguments : GroupedGemmArguments) :
    LaunchRequest where
  kernel := operation.kernel
  parameters := operation.packGrouped arguments
  launch device := operation.launchGrouped arguments device

def ConvolutionOperation.request (operation : ConvolutionOperation)
    (arguments : ConvolutionArguments) : LaunchRequest where
  kernel := operation.kernel
  parameters := operation.packArguments arguments
  launch _ := operation.launchConfig arguments

def ReductionOperation.request (operation : ReductionOperation)
    (arguments : ReductionArguments) : LaunchRequest where
  kernel := operation.kernel
  parameters := operation.packArguments arguments
  launch _ := operation.launchConfig arguments

end DeviceKernels
