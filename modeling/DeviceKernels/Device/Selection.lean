import DeviceKernels.Device.Info

/-
The choice of the device to work on. A device other than the host is not detected but described,
and one without a capability is not there.
-/

namespace DeviceKernels

structure DeviceConfig where
  family : DeviceFamily
  index : Nat
  computeCapability : UInt32
  totalMemory : Nat
  multiprocessors : UInt32
  sharedMemoryPerBlock : UInt32
  /-- Whether to fail rather than to fall back to the host. -/
  requireGpu : Bool
  deriving DecidableEq, Repr

namespace DeviceConfig

def standard : DeviceConfig where
  family := .cpu
  index := 0
  computeCapability := 0
  totalMemory := 16384 * 1048576
  multiprocessors := 1
  sharedMemoryPerBlock := 48 * 1024
  requireGpu := false

/-- The shared memory of a block on a family of devices. -/
def familySharedMemory (family : DeviceFamily) (computeCapability : UInt32) : UInt32 :=
  match family with
  | .cuda => if 80 ≤ computeCapability then 163 * 1024 else 48 * 1024
  | .sycl => 128 * 1024
  | .cpu => 48 * 1024

/-- A device of a family with a capability and a number of processors. -/
def ofFamily (family : DeviceFamily) (computeCapability multiprocessors : UInt32) :
    DeviceConfig :=
  { standard with
    family, computeCapability, multiprocessors
    sharedMemoryPerBlock := familySharedMemory family computeCapability }

/-- The described device, if there is one beside the host. -/
def described? (config : DeviceConfig) : Option DeviceInfo :=
  if config.family == .cpu || config.computeCapability == 0 then none
  else some
    { family := config.family
      index := config.index
      name := config.family.label ++ " device " ++ Text.decimal config.index ++ " (cc " ++
        Text.decimal config.computeCapability.toNat ++ ")"
      totalMemory := config.totalMemory
      computeCapability := config.computeCapability
      multiprocessors := max config.multiprocessors 1
      sharedMemoryPerBlock := config.sharedMemoryPerBlock }

end DeviceConfig

structure DeviceSelection where
  available : List DeviceInfo
  active : DeviceInfo
  deriving DecidableEq, Repr

namespace DeviceSelection

/-- Takes the configured device. When it is missing, only a configuration that does not require it
falls back to the host. -/
def select (processors : UInt32) (config : DeviceConfig) : Except DeviceError DeviceSelection :=
  let available := DeviceInfo.host processors :: config.described?.toList
  let found := available.find? fun device =>
    device.family == config.family && device.index == config.index
  match found with
  | some active => .ok ⟨available, active⟩
  | none =>
      if config.requireGpu then .error (.noDevices config.family)
      else if config.family == .cpu then .error (.notFound config.index)
      else .ok ⟨available, .host processors⟩

def hasGpu (selection : DeviceSelection) : Bool :=
  selection.available.any fun device => device.family != .cpu

end DeviceSelection

end DeviceKernels
