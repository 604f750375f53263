import DeviceKernels.Proofs.Memory.SharedDevice

/-
Growth by a whole step or by just the request, at once or after a trim.
-/

namespace DeviceKernels

namespace HostMemory

/-- Beside so many bytes no word counts the segment, or there is room for it but the host cannot
hold it in one piece. -/
def Stops (memory : HostMemory) (held size : Nat) : Prop :=
  Number.maxWord64 < held + size ∨ held + size ≤ memory.capacity ∧ vectorLimit < size

/-- A size that no word can be rounded up to is more than the host holds in one piece. -/
theorem vectorLimit_lt {size : Nat} (large : Number.maxWord64 < Number.roundUp size alignment) :
    vectorLimit < size := by
  have limit : vectorLimit + 256 ≤ Number.maxWord64 := by decide
  have rounded : Number.roundUp size alignment ≤ size + 255 := Nat.div_mul_le_self _ _
  omega

/-- A request stops, exceeds the capacity, or is granted. -/
theorem allocate_outcome (memory : HostMemory) {size : Nat} (positive : 0 < size) :
    (∃ skipped, memory.allocate size = (.error .overflow, memory.skip skipped) ∧
        memory.Stops memory.allocatedBytes size) ∨
      (memory.allocate size =
          (.error (.outOfMemory size (memory.capacity - memory.allocatedBytes)), memory) ∧
        ¬memory.Stops memory.allocatedBytes size ∧
        memory.capacity < memory.allocatedBytes + size) ∨
      (memory.allocate size = (.ok ⟨memory.nextAddress, size⟩, memory.extend size) ∧
        ¬memory.Stops memory.allocatedBytes size ∧
        memory.allocatedBytes + size ≤ memory.capacity) := by
  have notZero : size ≠ 0 := Nat.ne_of_gt positive
  simp only [allocate, beq_iff_eq, notZero, if_false, Stops]
  split
  case isTrue overflow => exact .inl ⟨0, rfl, .inl overflow⟩
  case isFalse word =>
    split
    case isTrue exceeds => exact .inr (.inl ⟨rfl, by omega, exceeds⟩)
    case isFalse fits =>
      have room := Nat.not_lt.mp fits
      split
      case isTrue large => exact .inl ⟨0, rfl, .inr ⟨room, vectorLimit_lt large⟩⟩
      case isFalse =>
        split
        case isTrue large => exact .inl ⟨size, rfl, .inr ⟨room, large⟩⟩
        case isFalse => exact .inr (.inr ⟨rfl, by omega, room⟩)

@[simp] theorem release_capacity (memory : HostMemory) (address : Nat) :
    (memory.release address).2.capacity = memory.capacity := by
  rw [release]
  split <;> rfl

end HostMemory

namespace Pool

variable {pool : Pool HostMemory} {others : List Segment} {size : Nat}

/-- With some bytes given back a segment of the size has room below the maximum and on the device. -/
@[mk_iff]
structure Admits (pool : Pool HostMemory) (released size : Nat) : Prop where
  ceiling : size ≤ pool.config.maximum - (pool.reserved - released)
  room : size ≤ pool.device.capacity - (pool.device.allocatedBytes - released)

/-- The segment to add for the size with some bytes given back. -/
def stepFor (pool : Pool HostMemory) (released size : Nat) : Nat :=
  min (max size (Number.roundUp pool.config.growth alignment))
    (pool.config.maximum - (pool.reserved - released))

/-- With some bytes given back the size is below the maximum, but the growth step is no word, or
the device stops for the segment to add or for the size alone. -/
def Overflows (pool : Pool HostMemory) (released size : Nat) : Prop :=
  size ≤ pool.config.maximum - (pool.reserved - released) ∧
    (Number.maxWord64 < Number.roundUp pool.config.growth alignment ∨
      pool.device.Stops (pool.device.allocatedBytes - released) (pool.stepFor released size) ∨
      pool.device.Stops (pool.device.allocatedBytes - released) size)

/-- A request for a segment stops, exceeds the device, or is granted. -/
theorem addSegment_outcome (pool : Pool HostMemory) (positive : 0 < size) :
    (∃ skipped, pool.addSegment size = (.error .overflow, pool.skip skipped) ∧
        pool.device.Stops pool.device.allocatedBytes size) ∨
      (∃ available, pool.addSegment size = (.error (.outOfMemory size available), pool) ∧
        ¬pool.device.Stops pool.device.allocatedBytes size ∧
        pool.device.capacity < pool.device.allocatedBytes + size) ∨
      (pool.addSegment size = (.ok (), pool.enlarge size) ∧
        ¬pool.device.Stops pool.device.allocatedBytes size ∧
        pool.device.allocatedBytes + size ≤ pool.device.capacity) := by
  simp only [addSegment, HostMemory.allocator_allocate]
  rcases pool.device.allocate_outcome positive with
    ⟨skipped, stopped, stops⟩ | ⟨refused, exceeds⟩ | ⟨granted, fits⟩
  · exact .inl ⟨skipped, by rw [stopped]; rfl, stops⟩
  · exact .inr (.inl ⟨_, by rw [refused], exceeds⟩)
  · exact .inr (.inr ⟨by rw [granted]; rfl, fits⟩)

/-- Trimming changes neither the limits nor the capacity. -/
theorem Restocks.limits {final : Pool HostMemory} (restocks : Restocks pool final) :
    final.config = pool.config ∧ final.device.capacity = pool.device.capacity := by
  induction restocks with
  | refl => exact ⟨rfl, rfl⟩
  | skip _ _ ih => exact ih
  | enlarge _ _ _ _ ih => exact ih
  | drop _ _ _ ih => exact ⟨ih.1, ih.2.trans (HostMemory.release_capacity _ _)⟩

/-- What has room at once has room after a trim. -/
theorem Admits.released (admits : pool.Admits 0 size) (released : Nat) :
    pool.Admits released size := by
  obtain ⟨ceiling, room⟩ := admits
  exact ⟨by omega, by omega⟩

/-- Growth stops at once, or it finds no room and stops after the idle segments are gone. -/
def GrowthOverflows (pool : Pool HostMemory) (size : Nat) : Prop :=
  pool.Overflows 0 size ∨ ¬pool.Admits 0 size ∧ pool.Overflows pool.idleBytes size

/-- What comes of growing with a trim in between: the block that a segment brings is large enough
exactly if the request has room beside the segments with live blocks. -/
inductive Serves (pool : Pool HostMemory) (size : Nat) :
    Except MemoryError Unit × Growth HostMemory → Prop
  | overflow {growth : Growth HostMemory} (overflows : pool.GrowthOverflows size) :
      Serves pool size (.error .overflow, growth)
  | grown {growth : Growth HostMemory} (grown : growth.grown = true)
      (fits : pool.Admits pool.idleBytes size) (never : ¬pool.GrowthOverflows size)
      (block : ∃ block ∈ growth.pool.free, size ≤ block.size) :
      Serves pool size (.ok (), growth)
  | refused {growth : Growth HostMemory} (ungrown : growth.grown = false)
      (full : ¬pool.Admits pool.idleBytes size) (never : ¬pool.GrowthOverflows size) :
      Serves pool size (.ok (), growth)

end Pool

end DeviceKernels
