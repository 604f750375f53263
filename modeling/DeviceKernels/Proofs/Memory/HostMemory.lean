import DeviceKernels.Proofs.Memory.Partition

/-
The memory of a device in the host: its segments keep apart, its byte count is exact, and a range
inside one segment is always found there.
-/

namespace DeviceKernels

/-- The range of an allocation. -/
def Allocation.segment (allocation : Allocation) : Segment := ⟨allocation.base, allocation.size⟩

/-- A position reads the bytes written last over it. -/
theorem Allocation.byteAt_write (allocation : Allocation) (offset position : Nat) (bytes : Bytes) :
    (allocation.write offset bytes).byteAt position =
      if offset ≤ position then (bytes[position - offset]?).getD (allocation.byteAt position)
      else allocation.byteAt position := by
  by_cases behind : offset ≤ position
  · cases found : bytes[position - offset]? <;> simp [byteAt, write, Patch.byte?, behind, found]
  · simp [byteAt, write, Patch.byte?, behind]

namespace HostMemory

/-- The ranges of the allocations. -/
def ranges (memory : HostMemory) : List Segment := memory.segments.map Allocation.segment

/-- What every operation keeps: aligned allocations that follow each other, an exact byte count,
and no more than the capacity. -/
structure WellFormed (memory : HostMemory) : Prop where
  nextAligned : alignment ∣ memory.nextAddress
  aligned : ∀ segment ∈ memory.ranges, alignment ∣ segment.base
  separate : Separate memory.ranges
  below : ∀ segment ∈ memory.ranges, segment.stop ≤ memory.nextAddress
  counted : memory.allocatedBytes = segmentBytes memory.ranges
  fits : memory.allocatedBytes ≤ memory.capacity

variable {memory : HostMemory} {allocation other : Allocation}

theorem mem_ranges (member : allocation ∈ memory.segments) : allocation.segment ∈ memory.ranges :=
  List.mem_map_of_mem member

@[simp] theorem ranges_skip (memory : HostMemory) (size : Nat) :
    (memory.skip size).ranges = memory.ranges := rfl

/-- Nothing is used up for a segment without bytes. -/
@[simp] theorem skip_zero (memory : HostMemory) : memory.skip 0 = memory := rfl

@[simp] theorem ranges_extend (memory : HostMemory) (size : Nat) :
    (memory.extend size).ranges = memory.ranges ++ [⟨memory.nextAddress, size⟩] := by
  simp [ranges, extend, Allocation.segment]

@[simp] theorem ranges_remove (memory : HostMemory) (found : Allocation) :
    (memory.remove found).ranges = memory.ranges.filter fun segment => segment.base != found.base := by
  simp [ranges, remove, List.filter_map, Function.comp_def, Allocation.segment]

@[simp] theorem ranges_patch (memory : HostMemory) (base offset : Nat) (bytes : Bytes) :
    (memory.patch base offset bytes).ranges = memory.ranges := by
  simp only [ranges, patch, List.map_map]
  apply List.map_congr_left
  intro segment _
  simp only [Function.comp_apply]
  split <;> rfl

@[simp] theorem allocator_allocate (memory : HostMemory) (size : Nat) :
    DeviceAllocator.allocate memory size = memory.allocate size := rfl

@[simp] theorem allocator_release (memory : HostMemory) (address : Nat) :
    DeviceAllocator.release memory address = memory.release address := rfl

/-- A fresh memory holds nothing. -/
theorem create_wellFormed (capacity index : Nat) : (create capacity index).WellFormed where
  nextAligned := Nat.dvd_of_mod_eq_zero (show baseAddress % alignment = 0 by decide)
  aligned := by simp [create, ranges]
  separate := ⟨.nil, by simp [create, ranges]⟩
  below := by simp [create, ranges]
  counted := rfl
  fits := Nat.zero_le _

namespace WellFormed

/-- Different allocations have different bases. -/
theorem distinct (wellFormed : memory.WellFormed) :
    (memory.segments.map Allocation.base).Nodup := by
  have different := wellFormed.separate.distinct
  rwa [ranges, List.map_map] at different

/-- Allocations that share an address are the same. -/
theorem unique (wellFormed : memory.WellFormed) {address : Nat}
    (member : allocation ∈ memory.segments) (otherMember : other ∈ memory.segments)
    (covers : allocation.segment.Covers address) (otherCovers : other.segment.Covers address) :
    allocation = other := by
  have same := wellFormed.separate.unique (mem_ranges member) (mem_ranges otherMember) covers
    otherCovers
  exact List.inj_on_of_nodup_map wellFormed.distinct member otherMember (congrArg Segment.base same)

/-- Addresses that are used up keep the memory well formed. -/
theorem skip (wellFormed : memory.WellFormed) (size : Nat) : (memory.skip size).WellFormed where
  nextAligned := Nat.dvd_add wellFormed.nextAligned (Number.dvdRoundUp size alignment)
  aligned := wellFormed.aligned
  separate := wellFormed.separate
  below segment member := (wellFormed.below segment member).trans (Nat.le_add_right _ _)
  counted := wellFormed.counted
  fits := wellFormed.fits

/-- A fresh allocation behind every other keeps the memory well formed. -/
theorem extend (wellFormed : memory.WellFormed) {size : Nat} (positive : 0 < size)
    (room : memory.allocatedBytes + size ≤ memory.capacity) : (memory.extend size).WellFormed where
  nextAligned := Nat.dvd_add wellFormed.nextAligned (Number.dvdRoundUp size alignment)
  aligned segment member := by
    rw [ranges_extend] at member
    rcases List.mem_append.mp member with member | member
    · exact wellFormed.aligned segment member
    · rw [List.mem_singleton.mp member]
      exact wellFormed.nextAligned
  separate := by
    rw [ranges_extend]
    exact wellFormed.separate.append positive wellFormed.below
  below segment member := by
    have span := Number.leRoundUp (show 0 < alignment by decide) size
    rw [ranges_extend] at member
    simp only [HostMemory.extend]
    rcases List.mem_append.mp member with member | member
    · have before := wellFormed.below segment member
      omega
    · rw [List.mem_singleton.mp member]
      simp only [Segment.stop]
      omega
  counted := by
    rw [ranges_extend, segmentBytes_concat, ← wellFormed.counted]
    rfl
  fits := room

/-- A memory without one of its allocations is well formed. -/
theorem remove (wellFormed : memory.WellFormed) (member : allocation ∈ memory.segments) :
    (memory.remove allocation).WellFormed where
  nextAligned := wellFormed.nextAligned
  aligned segment kept := by
    rw [ranges_remove] at kept
    exact wellFormed.aligned segment (List.mem_of_mem_filter kept)
  separate := by
    rw [ranges_remove]
    exact wellFormed.separate.filter _
  below segment kept := by
    rw [ranges_remove] at kept
    exact wellFormed.below segment (List.mem_of_mem_filter kept)
  counted := by
    have bytes := wellFormed.separate.bytes_drop (mem_ranges member)
    rw [← wellFormed.counted] at bytes
    rw [ranges_remove]
    simp only [HostMemory.remove, Allocation.segment] at bytes ⊢
    omega
  fits := (Nat.sub_le _ _).trans wellFormed.fits

/-- A patch moves no allocation. -/
theorem patch (wellFormed : memory.WellFormed) (base offset : Nat) (bytes : Bytes) :
    (memory.patch base offset bytes).WellFormed where
  nextAligned := wellFormed.nextAligned
  aligned := by
    rw [ranges_patch]
    exact wellFormed.aligned
  separate := by
    rw [ranges_patch]
    exact wellFormed.separate
  below := by
    rw [ranges_patch]
    exact wellFormed.below
  counted := by
    rw [ranges_patch]
    exact wellFormed.counted
  fits := wellFormed.fits

end WellFormed

/-- A request is refused, at most with addresses used up, or it gets the next address. -/
theorem allocate_cases (memory : HostMemory) (size : Nat) :
    (∃ error skipped, memory.allocate size = (.error error, memory.skip skipped)) ∨
      (memory.allocate size = (.ok ⟨memory.nextAddress, size⟩, memory.extend size) ∧ 0 < size ∧
        memory.allocatedBytes + size ≤ memory.capacity) := by
  simp only [allocate, beq_iff_eq]
  split
  · exact .inl ⟨_, 0, rfl⟩
  split
  · exact .inl ⟨_, 0, rfl⟩
  split
  · exact .inl ⟨_, 0, rfl⟩
  split
  · exact .inl ⟨_, 0, rfl⟩
  split
  · exact .inl ⟨_, size, rfl⟩
  · exact .inr ⟨rfl, by omega, by omega⟩

/-- An allocation is released at its base. -/
theorem release_base (wellFormed : memory.WellFormed) (member : allocation ∈ memory.segments) :
    memory.release allocation.base = (.ok (), memory.remove allocation) := by
  simp only [release, Keyed.find?_mem Allocation.base member wellFormed.distinct]

end HostMemory

end DeviceKernels
