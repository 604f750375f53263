import DeviceKernels.Backend.Launch
import DeviceKernels.Device.Selection
import DeviceKernels.Memory.Tensor

/-
Backends. A backend joins the active device, the memory pool and the artifact cache: it compiles
operations for the device and launches them.
-/

namespace DeviceKernels

inductive BackendError where
  | argument (error : ArgumentError)
  | compile (error : CompileError)
  | memory (error : MemoryError)
  | device (error : DeviceError)
  | launch (error : LaunchError)
  deriving DecidableEq, Repr

def BackendError.message : BackendError → String
  | argument error => error.message
  | compile error => error.message
  | memory error => error.message
  | device error => error.message
  | launch error => error.message

/-- The settings of a cache; a path makes it keep artifacts in files. -/
structure CacheConfig where
  path : Option String
  capacity : Nat
  options : CompileOptions
  deriving DecidableEq, Repr

def CacheConfig.standard : CacheConfig := ⟨none, 256, .standard⟩

structure BackendConfig where
  device : DeviceConfig
  pool : PoolConfig
  artifacts : CacheConfig
  deriving DecidableEq, Repr

/-- Opens a cache of a configuration among files. -/
def ArtifactCache.openAt {World : Type} (config : CacheConfig) (compiler : Compiler World)
    (world : World) (files : FileTree) :
    Except CompileError (ArtifactCache World) × FileTree :=
  if config.capacity == 0 then (.error .noCapacity, files)
  else
    match config.path with
    | none => (create config.capacity config.options compiler world none, files)
    | some path =>
        match ArtifactStore.create files path with
        | .error error => (.error (.file error), files)
        | .ok (store, files) =>
            (create config.capacity config.options compiler world (some store), files)

structure Backend (Device World : Type) where
  devices : DeviceSelection
  pool : Pool Device
  artifacts : ArtifactCache World

/-- What a backend leaves behind. -/
structure ShutdownReport where
  /-- Buffers that are still in use. -/
  live : Nat
  /-- The bytes of idle segments that went back to the device. -/
  released : Nat
  dropped : Nat
  pool : PoolStatistics
  deriving DecidableEq, Repr

def ShutdownReport.toJson (report : ShutdownReport) : Json := .object
  [("live_allocations", .ofNat report.live), ("released_bytes", .ofNat report.released),
    ("artifacts_dropped", .ofNat report.dropped), ("pool", report.pool.toJson)]

namespace Backend

variable {Device World : Type}

/-- The memory of the active device; the host has as much as the configuration says. -/
def memoryCapacity (devices : DeviceSelection) (config : DeviceConfig) : Nat :=
  if devices.active.totalMemory == 0 then config.totalMemory else devices.active.totalMemory

/-- Puts a backend together on a device's allocator; the pool comes before the cache. -/
def assemble [DeviceAllocator Device] (devices : DeviceSelection) (config : BackendConfig)
    (device : Device) (compiler : Compiler World) (world : World) (files : FileTree) :
    Except BackendError (Backend Device World) × FileTree :=
  match Pool.create device config.pool with
  | (.error error, _) => (.error (.memory error), files)
  | (.ok (), pool) =>
      match ArtifactCache.openAt config.artifacts compiler world files with
      | (.error error, files) => (.error (.compile error), files)
      | (.ok artifacts, files) => (.ok ⟨devices, pool, artifacts⟩, files)

/-- Puts a backend together on memory in the host, as large as the memory of the chosen device. -/
def create (processors : UInt32) (config : BackendConfig) (compiler : Compiler World)
    (world : World) (files : FileTree) :
    Except BackendError (Backend HostMemory World) × FileTree :=
  match DeviceSelection.select processors config.device with
  | .error error => (.error (.device error), files)
  | .ok devices =>
      let memory := HostMemory.create (memoryCapacity devices config.device) devices.active.index
      assemble devices config memory compiler world files

def activeDevice (backend : Backend Device World) : DeviceInfo := backend.devices.active

def checkKernel (backend : Backend Device World) (kernel : Kernel) : Except BackendError Unit :=
  (backend.activeDevice.checkKernel kernel.arch kernel.sharedMemoryBytes).mapError .device

/-- Compiles operations as one module after the device was checked for each. The handles are in the
order of the operations. -/
def prepare (backend : Backend Device World) (kernels : List Kernel) (now : Instant) :
    Except BackendError (List KernelHandle) × Backend Device World :=
  match kernels.forM backend.checkKernel with
  | .error error => (.error error, backend)
  | .ok () =>
      let (result, artifacts) := backend.artifacts.compile kernels now
      ((result.mapError .compile).map fun artifact =>
          kernels.map fun kernel => ⟨artifact, kernel.symbol⟩,
        { backend with artifacts })

/-- The kernel in memory, or else a kernel compiled on its own. -/
def kernelFor (backend : Backend Device World) (kernel : Kernel) (now : Instant) :
    Except BackendError KernelHandle × Backend Device World :=
  match backend.checkKernel kernel with
  | .error error => (.error error, backend)
  | .ok () =>
      match backend.artifacts.kernel kernel.symbol with
      | (some handle, artifacts) => (.ok handle, { backend with artifacts })
      | (none, artifacts) =>
          let (result, artifacts) := artifacts.compile [kernel] now
          ((result.mapError .compile).map fun artifact => ⟨artifact, kernel.symbol⟩,
            { backend with artifacts })

/-- Launches a kernel whose shared memory the device allows. -/
def launch (backend : Backend Device World) (log : LaunchLog) (kernel : KernelHandle)
    (launch : LaunchConfig) (parameters : Bytes) : Except BackendError LaunchLog :=
  let available := backend.activeDevice.sharedMemoryPerBlock
  if available < launch.sharedMemoryBytes then
    .error (.device (.sharedMemory launch.sharedMemoryBytes available))
  else (log.record kernel launch parameters).mapError .launch

/-- Compiles a request's kernel if need be and launches it. -/
def run (backend : Backend Device World) (log : LaunchLog) (request : LaunchRequest)
    (now : Instant) : Except BackendError LaunchConfig × Backend Device World × LaunchLog :=
  match backend.kernelFor request.kernel now with
  | (.error error, backend) => (.error error, backend, log)
  | (.ok kernel, backend) =>
      let launched : Except BackendError (LaunchConfig × LaunchLog) := do
        let parameters ← request.parameters.mapError .argument
        let launch ← (request.launch backend.activeDevice).mapError .argument
        .ok (launch, ← backend.launch log kernel launch parameters)
      match launched with
      | .error error => (.error error, backend, log)
      | .ok (launch, log) => (.ok launch, backend, log)

/-- Runs requests in their order until one fails. -/
def runAll (backend : Backend Device World) (log : LaunchLog) (now : Instant) :
    List LaunchRequest →
    Except BackendError (List LaunchConfig) × Backend Device World × LaunchLog
  | [] => (.ok [], backend, log)
  | request :: rest =>
      match backend.run log request now with
      | (.error error, backend, log) => (.error error, backend, log)
      | (.ok launch, backend, log) =>
          let (result, backend, log) := runAll backend log now rest
          (result.map (launch :: ·), backend, log)

/-- Runs a convolution. A run that splits the products among blocks writes its partial sums to the
workspace, and a reduction adds them up; both kernels are compiled before either is launched. -/
def runConvolution (backend : Backend Device World) (log : LaunchLog)
    (operation : ConvolutionOperation) (arguments : ConvolutionArguments) (now : Instant) :
    Except BackendError (List LaunchConfig) × Backend Device World × LaunchLog :=
  match arguments.splitK with
  | .serial => backend.runAll log now [operation.request arguments]
  | .parallel _ =>
      if UInt32.size ≤ operation.storeReach then (.error (.argument .stopped), backend, log)
      else
        let partialKernel := operation.partialAccumulation
        let reduction := operation.splitKReduction
        match backend.prepare [partialKernel.kernel, reduction.kernel] now with
        | (.error error, backend) => (.error error, backend, log)
        | (.ok _, backend) =>
            match operation.reductionArguments arguments with
            | .error error => (.error (.argument error), backend, log)
            | .ok reductionArguments =>
                backend.runAll log now
                  [partialKernel.request arguments, reduction.request reductionArguments]

/-- Drops every artifact and gives idle memory back; buffers in use stay alive. -/
def shutdown [DeviceAllocator Device] (backend : Backend Device World) :
    ShutdownReport × Backend Device World :=
  let live := backend.pool.live.length
  let (released, pool) := backend.pool.trim
  let (dropped, artifacts) := backend.artifacts.clearMemory
  (⟨live, released, dropped, pool.statistics⟩, { backend with pool, artifacts })

end Backend

end DeviceKernels
