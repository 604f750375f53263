import DeviceKernels.Proofs.Memory.Growth

/-
The exact condition under which a request for memory succeeds.
-/

namespace DeviceKernels

namespace Pool

variable {pool : Pool HostMemory} {others : List Segment} {size : Nat}

/-- A free block is large enough, or the request has room beside the segments with live blocks. -/
def Accommodates (pool : Pool HostMemory) (size : Nat) : Prop :=
  (∃ block ∈ pool.free, size ≤ block.size) ∨ pool.Admits pool.idleBytes size

/-- No free block is large enough and growth stops. -/
def BlockStops (pool : Pool HostMemory) (size : Nat) : Prop :=
  (∀ block ∈ pool.free, block.size < size) ∧ pool.GrowthOverflows size

/-- The rounded size is no 64-bit word, or the request for its block stops. -/
def Stops (pool : Pool HostMemory) (size : Nat) : Prop :=
  Number.maxWord64 < Number.roundUp size alignment ∨
    pool.BlockStops (Number.roundUp size alignment)

/-- What comes of a request for a block. -/
inductive Answers (pool : Pool HostMemory) (size : Nat) : Except MemoryError Nat → Prop
  | granted {address : Nat} (room : pool.Accommodates size) (never : ¬pool.BlockStops size) :
      Answers pool size (.ok address)
  | refused {available : Nat} (full : ¬pool.Accommodates size) (never : ¬pool.BlockStops size) :
      Answers pool size (.error (.outOfMemory size available))
  | overflow (stops : pool.BlockStops size) : Answers pool size (.error .overflow)

end Pool

namespace Tenancy

end Tenancy

end DeviceKernels
