import DeviceKernels.Json.Form

namespace DeviceKernels

inductive DeviceFamily where
  | cuda
  | sycl
  /-- The host records launches and runs nothing. -/
  | cpu
  deriving DecidableEq, Repr, Inhabited

namespace DeviceFamily

def label : DeviceFamily → String
  | cuda => "CUDA"
  | sycl => "SYCL"
  | cpu => "CPU"

instance : Named DeviceFamily where
  all := [cuda, sycl, cpu]
  name
    | cuda => "cuda"
    | sycl => "sycl"
    | cpu => "cpu"

end DeviceFamily

inductive DeviceError where
  | noDevices (family : DeviceFamily)
  | notFound (index : Nat)
  | unknownFamily (name : String)
  | unsupportedArch (family : DeviceFamily) (required available : UInt32)
  | sharedMemory (required available : UInt32)
  /-- The shared memory of a kernel is no word, and the program stopped. -/
  | stopped
  deriving DecidableEq, Repr

def DeviceError.message : DeviceError → String
  | noDevices family => "No devices available for backend " ++ family.label
  | notFound index => "Device not found: " ++ Text.decimal index
  | unknownFamily name => "Unknown device backend: " ++ name
  | unsupportedArch family required available =>
      "Kernel for arch " ++ Text.decimal required.toNat ++ " cannot run on " ++ family.label ++
        " device with capability " ++ Text.decimal available.toNat
  | sharedMemory required available =>
      "Kernel needs " ++ Text.decimal required.toNat ++
        " bytes of shared memory, device allows " ++ Text.decimal available.toNat
  | stopped => "attempt to multiply with overflow"

/-- The family of a name in any case; two names have an alias. -/
def DeviceFamily.ofName (name : String) : Except DeviceError DeviceFamily :=
  let lower := Text.lowerAscii name
  if lower == "cuda" then .ok .cuda
  else if lower == "sycl" || lower == "xe" then .ok .sycl
  else if lower == "cpu" || lower == "host" then .ok .cpu
  else .error (.unknownFamily lower)

/-- The capability is the architecture that the device implements. -/
structure DeviceInfo where
  family : DeviceFamily
  index : Nat
  name : String
  totalMemory : Nat
  computeCapability : UInt32
  multiprocessors : UInt32
  sharedMemoryPerBlock : UInt32
  deriving DecidableEq, Repr, Inhabited

namespace DeviceInfo

/-- The host with a number of processors. -/
def host (processors : UInt32) : DeviceInfo where
  family := .cpu
  index := 0
  name := "CPU"
  totalMemory := 0
  computeCapability := 0
  multiprocessors := processors
  sharedMemoryPerBlock := UInt32.ofNat (UInt32.size - 1)

/-- Newer devices of one family run older kernels, devices of the other family run their own
architecture only, and the host takes every kernel. -/
def supportsArch (device : DeviceInfo) (arch : UInt32) : Bool :=
  match device.family with
  | .cuda => arch ≤ device.computeCapability
  | .sycl => arch == device.computeCapability
  | .cpu => true

/-- Checks the architecture first and the shared memory second. -/
def checkKernel (device : DeviceInfo) (arch : UInt32) (sharedMemory : Option UInt32) :
    Except DeviceError Unit :=
  if !device.supportsArch arch then
    .error (.unsupportedArch device.family arch device.computeCapability)
  else
    match sharedMemory with
    | none => .error .stopped
    | some required =>
        if device.sharedMemoryPerBlock < required then
          .error (.sharedMemory required device.sharedMemoryPerBlock)
        else .ok ()

instance : JsonForm DeviceInfo where
  toJson device := .object
    [("backend", toJson device.family), ("index", toJson device.index),
      ("name", toJson device.name), ("total_memory", toJson device.totalMemory),
      ("compute_capability", toJson device.computeCapability),
      ("multiprocessor_count", toJson device.multiprocessors),
      ("max_shared_memory_per_block", toJson device.sharedMemoryPerBlock)]
  ofJson? json := do
    match ← json.record? ["backend", "index", "name", "total_memory", "compute_capability",
      "multiprocessor_count", "max_shared_memory_per_block"] with
    | [family, index, name, totalMemory, computeCapability, multiprocessors, sharedMemory] =>
        some
          { family := ← Json.required? DeviceFamily family
            index := ← Json.required? Nat index
            name := ← Json.required? String name
            totalMemory := ← Json.required? Nat totalMemory
            computeCapability := ← Json.required? UInt32 computeCapability
            multiprocessors := ← Json.required? UInt32 multiprocessors
            sharedMemoryPerBlock := ← Json.required? UInt32 sharedMemory }
    | _ => none

end DeviceInfo

end DeviceKernels
