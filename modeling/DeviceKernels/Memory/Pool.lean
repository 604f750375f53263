import DeviceKernels.Json.Form
import DeviceKernels.Memory.Allocator

/-
A request takes the smallest free block that is large enough; a released block joins the free
blocks beside it in its segment; segments without live blocks go back to the device when room is
needed.
-/

namespace DeviceKernels

structure PoolConfig where
  /-- The bytes of the first segment; zero leaves the pool empty at first. -/
  initial : Nat
  /-- The most bytes that are held from the device. -/
  maximum : Nat
  /-- The least bytes of a further segment. -/
  growth : Nat
  deriving DecidableEq, Repr

namespace PoolConfig

def standard : PoolConfig := ⟨64 * 1048576, 4096 * 1048576, 32 * 1048576⟩

/-- Checks the sizes and returns the size of the first segment. -/
def firstSegment (config : PoolConfig) : Except MemoryError Nat := do
  if config.maximum == 0 then .error .poolWithoutMaximum
  else if config.maximum < config.initial then
    .error (.poolTooLarge config.initial config.maximum)
  else .ok (min (← checkedWord (Number.roundUp config.initial 256)) config.maximum)

end PoolConfig

/-- A part of a segment. -/
structure Block where
  address : Nat
  size : Nat
  /-- The base of the segment. -/
  segment : Nat
  deriving DecidableEq, Repr

structure PoolStatistics where
  reserved : Nat
  used : Nat
  free : Nat
  segments : Nat
  live : Nat
  peakUsed : Nat
  totalAllocations : Nat
  reusedAllocations : Nat
  deriving DecidableEq, Repr

def PoolStatistics.toJson (statistics : PoolStatistics) : Json := .object
  [("reserved_bytes", .ofNat statistics.reserved), ("used_bytes", .ofNat statistics.used),
    ("free_bytes", .ofNat statistics.free), ("segments", .ofNat statistics.segments),
    ("live_allocations", .ofNat statistics.live),
    ("peak_used_bytes", .ofNat statistics.peakUsed),
    ("total_allocations", .ofNat statistics.totalAllocations),
    ("reused_allocations", .ofNat statistics.reusedAllocations)]

structure Pool (Device : Type) where
  config : PoolConfig
  device : Device
  /-- Segments in the order of their bases. -/
  segments : List Segment
  /-- Free blocks in the order of their addresses. -/
  free : List Block
  live : List Block
  reserved : Nat
  used : Nat
  peakUsed : Nat
  totalAllocations : Nat
  reusedAllocations : Nat
  deriving DecidableEq, Repr

/-- Memory lent by a pool. The block behind it may be longer. -/
structure Buffer where
  address : Nat
  length : Nat
  deriving DecidableEq, Repr

namespace Pool

/-- Blocks begin and end at multiples of the alignment, but for the end of a segment. -/
def alignment : Nat := 256

variable {Device : Type}

def insertFree (block : Block) : List Block → List Block
  | [] => [block]
  | first :: rest =>
      if block.address < first.address then block :: first :: rest
      else first :: insertFree block rest

def eraseAt (address : Nat) (blocks : List Block) : List Block :=
  blocks.filter fun block => block.address != address

def blockAt? (address : Nat) (blocks : List Block) : Option Block :=
  blocks.find? fun block => block.address == address

/-- The smallest block of at least a size; of several the first. -/
def bestFit? (size : Nat) (blocks : List Block) : Option Block :=
  (blocks.filter fun block => size ≤ block.size).minOn? Block.size

/-- Lends the front of a free block and leaves what is over as a free block. -/
def carve (pool : Pool Device) (block : Block) (size : Nat) : Pool Device :=
  let others := eraseAt block.address pool.free
  let used := pool.used + size
  { pool with
    free :=
      if size < block.size then
        insertFree ⟨block.address + size, block.size - size, block.segment⟩ others
      else others
    live := ⟨block.address, size, block.segment⟩ :: pool.live
    used
    peakUsed := max pool.peakUsed used
    totalAllocations := pool.totalAllocations + 1 }

/-- Takes the best block for a size. -/
def take? (pool : Pool Device) (size : Nat) : Option (Nat × Pool Device) :=
  (bestFit? size pool.free).map fun block => (block.address, pool.carve block size)

/-- Joins a block with the free block that begins at its end in its segment. -/
def joinNext (block : Block) (free : List Block) : Block × List Block :=
  match blockAt? (block.address + block.size) free with
  | some next =>
      if next.segment == block.segment then
        ({ block with size := block.size + next.size }, eraseAt next.address free)
      else (block, free)
  | none => (block, free)

/-- Joins a block with the free block that ends at its beginning in its segment. -/
def joinPrevious (block : Block) (free : List Block) : Block × List Block :=
  match (free.filter fun other => other.address < block.address).getLast? with
  | some previous =>
      if previous.segment == block.segment && previous.address + previous.size == block.address then
        (⟨previous.address, previous.size + block.size, block.segment⟩,
          eraseAt previous.address free)
      else (block, free)
  | none => (block, free)

/-- Makes a live block free and joins it with the free blocks beside it. -/
def retire (pool : Pool Device) (block : Block) : Pool Device :=
  let (longer, others) := joinNext block pool.free
  let (joined, others) := joinPrevious longer others
  { pool with
    free := insertFree joined others
    live := eraseAt block.address pool.live
    used := pool.used - block.size }

/-- Gives the live block at an address back. -/
def release (pool : Pool Device) (address : Nat) : Except MemoryError (Pool Device) :=
  match blockAt? address pool.live with
  | none => .error (.doubleFree address)
  | some block => .ok (pool.retire block)

def freeBytes (pool : Pool Device) : Nat := Number.total (pool.free.map Block.size)

/-- Whether a segment is one free block. -/
def isIdle (pool : Pool Device) (segment : Segment) : Bool :=
  match blockAt? segment.base pool.free with
  | some block => block.size == segment.size
  | none => false

def idleSegments (pool : Pool Device) : List Segment := pool.segments.filter pool.isIdle

variable [DeviceAllocator Device]

def insertSegment (segment : Segment) : List Segment → List Segment
  | [] => [segment]
  | first :: rest =>
      if segment.base < first.base then segment :: first :: rest
      else first :: insertSegment segment rest

/-- Takes a segment that the device gave into the pool, all of it free. -/
def attach (pool : Pool Device) (device : Device) (segment : Segment) (size : Nat) : Pool Device :=
  { pool with
    device
    segments := insertSegment segment pool.segments
    free := insertFree ⟨segment.base, size, segment.base⟩ pool.free
    reserved := pool.reserved + size }

/-- Gets a segment from the device. -/
def addSegment (pool : Pool Device) (size : Nat) : Except MemoryError Unit × Pool Device :=
  match DeviceAllocator.allocate pool.device size with
  | (.error error, device) => (.error error, { pool with device })
  | (.ok segment, device) => (.ok (), pool.attach device segment size)

/-- Gives one segment back. The pool gives it up even if the device refuses it. -/
def dropSegment (pool : Pool Device) (segment : Segment) : Pool Device :=
  { pool with
    device := (DeviceAllocator.release pool.device segment.base).2
    segments := pool.segments.filter fun other => other.base != segment.base
    free := eraseAt segment.base pool.free
    reserved := pool.reserved - segment.size }

/-- Gives every idle segment back and counts the bytes. -/
def trim (pool : Pool Device) : Nat × Pool Device :=
  let idle := pool.idleSegments
  (Number.total (idle.map Segment.size), idle.foldl dropSegment pool)

/-- The size of the segment to add for a request; none when the maximum leaves no room. -/
def growthFor (pool : Pool Device) (size : Nat) : Except MemoryError (Option Nat) := do
  let headroom := pool.config.maximum - pool.reserved
  if headroom < size then .ok none
  else
    let step ← checkedWord (Number.roundUp pool.config.growth alignment)
    .ok (some (min (max size step) headroom))

/-- What came of an attempt to grow. -/
structure Growth (Device : Type) where
  pool : Pool Device
  /-- Whether a segment was added. -/
  grown : Bool
  /-- The least that the device said to have left when it refused. -/
  available : Option Nat

/-- Adds a segment of the first size that the device has memory for. -/
def tryGrow (size : Nat) : List Nat → Growth Device → Except MemoryError Unit × Growth Device
  | [], growth => (.ok (), growth)
  | candidate :: rest, growth =>
      match growth.pool.addSegment candidate with
      | (.ok (), pool) => (.ok (), { growth with pool, grown := true })
      | (.error (.outOfMemory _ available), pool) =>
          let least := match growth.available with
            | none => available
            | some before => min before available
          tryGrow size rest { growth with pool, available := some least }
      | (.error error, pool) => (.error error, { growth with pool })

/-- Adds a segment for a request: a whole step, or just the request if the device refuses that. -/
def grow (size : Nat) (growth : Growth Device) : Except MemoryError Unit × Growth Device :=
  match growth.pool.growthFor size with
  | .error error => (.error error, growth)
  | .ok none => (.ok (), growth)
  | .ok (some step) => tryGrow size (if size < step then [step, size] else [step]) growth

/-- Adds a segment, if need be after idle segments were given back. -/
def growOrTrim (pool : Pool Device) (size : Nat) : Except MemoryError Unit × Growth Device :=
  match grow size ⟨pool, false, none⟩ with
  | (.error error, growth) => (.error error, growth)
  | (.ok (), growth) =>
      if growth.grown then (.ok (), growth)
      else
        let (released, trimmed) := growth.pool.trim
        if released == 0 then (.ok (), { growth with pool := trimmed })
        else grow size { growth with pool := trimmed }

/-- What a failed request could have got: room up to the maximum and what is free. -/
def availableAfter (growth : Growth Device) : Nat :=
  let headroom := growth.pool.config.maximum - growth.pool.reserved
  (match growth.available with
    | none => headroom
    | some least => min least headroom) + growth.pool.freeBytes

/-- The address of a block of a rounded size. -/
def allocateBlock (pool : Pool Device) (size : Nat) : Except MemoryError Nat × Pool Device :=
  match pool.take? size with
  | some (address, pool) =>
      (.ok address, { pool with reusedAllocations := pool.reusedAllocations + 1 })
  | none =>
      match pool.growOrTrim size with
      | (.error error, growth) => (.error error, growth.pool)
      | (.ok (), growth) =>
          if !growth.grown then
            (.error (.outOfMemory size (availableAfter growth)), growth.pool)
          else
            match growth.pool.take? size with
            | some (address, pool) => (.ok address, pool)
            | none => (.error (.outOfMemory size growth.pool.freeBytes), growth.pool)

/-- A pool without segments. -/
def blank (device : Device) (config : PoolConfig) : Pool Device where
  config := config
  device := device
  segments := []
  free := []
  live := []
  reserved := 0
  used := 0
  peakUsed := 0
  totalAllocations := 0
  reusedAllocations := 0

def create (device : Device) (config : PoolConfig) : Except MemoryError Unit × Pool Device :=
  match config.firstSegment with
  | .error error => (.error error, blank device config)
  | .ok size =>
      if size == 0 then (.ok (), blank device config) else (blank device config).addSegment size

def allocate (pool : Pool Device) (size : Nat) : Except MemoryError Buffer × Pool Device :=
  if size == 0 then (.error (.invalidSize size), pool)
  else
    match checkedWord (Number.roundUp size alignment) with
    | .error error => (.error error, pool)
    | .ok rounded =>
        match pool.allocateBlock rounded with
        | (.ok address, pool) => (.ok ⟨address, size⟩, pool)
        | (.error error, pool) => (.error error, pool)

/-- Gives a buffer back. A buffer that the pool does not know is ignored. -/
def giveBack (pool : Pool Device) (buffer : Buffer) : Pool Device :=
  match pool.release buffer.address with
  | .ok pool => pool
  | .error _ => pool

/-- Writes to the start of a buffer. -/
def write (pool : Pool Device) (buffer : Buffer) (bytes : Bytes) :
    Except MemoryError (Pool Device) :=
  if buffer.length < bytes.length then .error (.outOfBounds buffer.address bytes.length)
  else (DeviceAllocator.write pool.device buffer.address bytes).map fun device =>
    { pool with device }

/-- Reads from the start of a buffer. -/
def read (pool : Pool Device) (buffer : Buffer) (length : Nat) : Except MemoryError Bytes :=
  if buffer.length < length then .error (.outOfBounds buffer.address length)
  else DeviceAllocator.read pool.device buffer.address length

/-- Gives every segment back. -/
def close (pool : Pool Device) : Pool Device :=
  pool.segments.foldl dropSegment pool

def statistics (pool : Pool Device) : PoolStatistics where
  reserved := pool.reserved
  used := pool.used
  free := pool.freeBytes
  segments := pool.segments.length
  live := pool.live.length
  peakUsed := pool.peakUsed
  totalAllocations := pool.totalAllocations
  reusedAllocations := pool.reusedAllocations

end Pool

end DeviceKernels
