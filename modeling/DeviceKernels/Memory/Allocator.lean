import DeviceKernels.Number.Word
import DeviceKernels.Text.Hexadecimal
import DeviceKernels.Text.Numeral

/-
What an allocator of whole segments offers, and the allocator that keeps the memory of a device in
the host.
-/

namespace DeviceKernels

inductive MemoryError where
  | outOfMemory (requested available : Nat)
  | invalidSize (size : Nat)
  | doubleFree (address : Nat)
  | outOfBounds (address length : Nat)
  | poolWithoutMaximum
  | poolTooLarge (initial maximum : Nat)
  | device (reason : String)
  /-- A size is no 64-bit word, or more than the host can hold in one piece. -/
  | overflow
  deriving DecidableEq, Repr

def MemoryError.message : MemoryError → String
  | outOfMemory requested available =>
      "Out of device memory: requested " ++ Text.decimal requested ++ " bytes, available " ++
        Text.decimal available ++ " bytes"
  | invalidSize size => "Invalid allocation size: " ++ Text.decimal size
  | doubleFree address => "Double free or unknown allocation at 0x" ++ Text.hexNumeral address
  | outOfBounds address length =>
      "Access of " ++ Text.decimal length ++ " bytes at 0x" ++ Text.hexNumeral address ++
        " is outside any allocation"
  | poolWithoutMaximum => "Invalid pool configuration: max_pool_size must be non-zero"
  | poolTooLarge initial maximum =>
      "Invalid pool configuration: init_pool_size " ++ Text.decimal initial ++
        " exceeds max_pool_size " ++ Text.decimal maximum
  | device reason => "Device allocator failure: " ++ reason
  | overflow => "attempt to compute a size with overflow"

/-- A number that fits a 64-bit word. -/
def checkedWord (value : Nat) : Except MemoryError Nat :=
  if value ≤ Number.maxWord64 then .ok value else .error .overflow

/-- A segment of device memory. -/
structure Segment where
  base : Nat
  size : Nat
  deriving DecidableEq, Repr

/-- An allocator of segments. A call that fails may still have changed the allocator. -/
class DeviceAllocator (Device : Type) where
  allocate : Device → Nat → Except MemoryError Segment × Device
  release : Device → Nat → Except MemoryError Unit × Device
  write : Device → (address : Nat) → Bytes → Except MemoryError Device
  read : Device → (address length : Nat) → Except MemoryError Bytes
  allocatedBytes : Device → Nat
  allocations : Device → Nat
  deviceIndex : Device → Nat

/-- Bytes written at an offset. -/
structure Patch where
  offset : Nat
  bytes : Array UInt8
  deriving DecidableEq, Repr

def Patch.byte? (patch : Patch) (position : Nat) : Option UInt8 :=
  if patch.offset ≤ position then patch.bytes[position - patch.offset]? else none

/-- A live segment and what was written to it, the latest patch first. Memory that was never
written holds zeros. -/
structure Allocation where
  base : Nat
  size : Nat
  patches : List Patch
  deriving DecidableEq, Repr

namespace Allocation

def byteAt (allocation : Allocation) (position : Nat) : UInt8 :=
  (allocation.patches.findSome? fun patch => patch.byte? position).getD 0

def read (allocation : Allocation) (offset length : Nat) : Bytes :=
  (List.range length).map fun index => allocation.byteAt (offset + index)

def write (allocation : Allocation) (offset : Nat) (bytes : Bytes) : Allocation :=
  { allocation with patches := ⟨offset, bytes.toArray⟩ :: allocation.patches }

end Allocation

/-- The memory of a device in the host. No address is handed out twice, so a stale address never
falls into a live segment. -/
structure HostMemory where
  capacity : Nat
  index : Nat
  nextAddress : Nat
  /-- Live segments in the order of their addresses. -/
  segments : List Allocation
  /-- The bytes of the live segments. -/
  allocatedBytes : Nat
  deriving DecidableEq, Repr

namespace HostMemory

/-- Segments begin at multiples of the alignment. -/
def alignment : Nat := 256

def baseAddress : Nat := 0x100000000

def create (capacity index : Nat) : HostMemory := ⟨capacity, index, baseAddress, [], 0⟩

/-- The most bytes that the host holds in one piece. -/
def vectorLimit : Nat := 0x7FFFFFFFFFFFFFFF

/-- The memory after the addresses of a segment were used up. -/
def skip (memory : HostMemory) (size : Nat) : HostMemory :=
  { memory with nextAddress := memory.nextAddress + Number.roundUp size alignment }

/-- The memory with a fresh segment behind every other. -/
def extend (memory : HostMemory) (size : Nat) : HostMemory :=
  { memory with
    nextAddress := memory.nextAddress + Number.roundUp size alignment
    segments := memory.segments ++ [⟨memory.nextAddress, size, []⟩]
    allocatedBytes := memory.allocatedBytes + size }

def allocate (memory : HostMemory) (size : Nat) : Except MemoryError Segment × HostMemory :=
  let total := memory.allocatedBytes
  if size == 0 then (.error (.invalidSize size), memory)
  else if Number.maxWord64 < total + size then (.error .overflow, memory)
  else if memory.capacity < total + size then
    (.error (.outOfMemory size (memory.capacity - total)), memory)
  else if Number.maxWord64 < Number.roundUp size alignment then (.error .overflow, memory)
  -- The addresses are taken before the bytes are, so they are gone if the host cannot hold these.
  else if vectorLimit < size then (.error .overflow, memory.skip size)
  else (.ok ⟨memory.nextAddress, size⟩, memory.extend size)

/-- The memory without a segment. -/
def remove (memory : HostMemory) (found : Allocation) : HostMemory :=
  { memory with
    segments := memory.segments.filter fun segment => segment.base != found.base
    allocatedBytes := memory.allocatedBytes - found.size }

def release (memory : HostMemory) (address : Nat) : Except MemoryError Unit × HostMemory :=
  match memory.segments.find? fun segment => segment.base == address with
  | some found => (.ok (), memory.remove found)
  | none => (.error (.doubleFree address), memory)

/-- The last segment that begins at or before an address, when the whole range lies in it. -/
def locate (memory : HostMemory) (address length : Nat) : Except MemoryError Allocation :=
  match (memory.segments.filter fun segment => segment.base ≤ address).getLast? with
  | none => .error (.outOfBounds address length)
  | some segment =>
      if segment.size < address - segment.base + length then .error (.outOfBounds address length)
      else .ok segment

/-- The memory with bytes written at an offset of the segment with a base. -/
def patch (memory : HostMemory) (base offset : Nat) (bytes : Bytes) : HostMemory :=
  { memory with
    segments := memory.segments.map fun segment =>
      if segment.base == base then segment.write offset bytes else segment }

def write (memory : HostMemory) (address : Nat) (bytes : Bytes) : Except MemoryError HostMemory := do
  let found ← memory.locate address bytes.length
  .ok (memory.patch found.base (address - found.base) bytes)

def read (memory : HostMemory) (address length : Nat) : Except MemoryError Bytes := do
  let segment ← memory.locate address length
  .ok (segment.read (address - segment.base) length)

instance : DeviceAllocator HostMemory where
  allocate := allocate
  release := release
  write := write
  read := read
  allocatedBytes := allocatedBytes
  allocations memory := memory.segments.length
  deviceIndex memory := memory.index

end HostMemory

end DeviceKernels
