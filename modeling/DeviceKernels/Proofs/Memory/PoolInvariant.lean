import DeviceKernels.Proofs.Memory.HostMemory

/-
The invariant of a pool over host memory, and the four changes of a pool that keep it: a block is
lent, a block comes back, a segment comes and a segment goes.
-/

namespace DeviceKernels.Pool

/-- The segments are those of the device, the blocks tile them, and the counters are exact. -/
structure WellFormed (pool : Pool HostMemory) : Prop where
  device : pool.device.WellFormed
  backed : pool.segments = pool.device.ranges
  partition : Partition pool.segments (pool.free ++ pool.live)
  reserved : pool.reserved = segmentBytes pool.segments
  bounded : pool.reserved ≤ pool.config.maximum
  used : pool.used = blockBytes pool.live

/-- The same of a pool whose device also holds segments of others. -/
structure Housed (others : List Segment) (pool : Pool HostMemory) : Prop where
  device : pool.device.WellFormed
  shares : pool.device.ranges.Perm (pool.segments ++ others)
  partition : Partition pool.segments (pool.free ++ pool.live)
  reserved : pool.reserved = segmentBytes pool.segments
  bounded : pool.reserved ≤ pool.config.maximum
  used : pool.used = blockBytes pool.live

variable {pool : Pool HostMemory} {segments others : List Segment} {free live : List Block}
  {block other : Block}

namespace Housed

/-- The free blocks begin at different addresses. -/
theorem free_distinct (housed : Housed others pool) : (pool.free.map Block.address).Nodup := by
  have distinct := housed.partition.distinct
  rw [List.map_append] at distinct
  exact (List.nodup_append.mp distinct).1

/-- The live blocks begin at different addresses. -/
theorem live_distinct (housed : Housed others pool) : (pool.live.map Block.address).Nodup := by
  have distinct := housed.partition.distinct
  rw [List.map_append] at distinct
  exact (List.nodup_append.mp distinct).2.1

/-- The device has handed out the reserved bytes and those of the others. -/
theorem allocated (housed : Housed others pool) :
    pool.device.allocatedBytes = pool.reserved + segmentBytes others := by
  rw [housed.device.counted, housed.reserved, segmentBytes_perm housed.shares, segmentBytes_append]

/-- The used and the free bytes are the reserved bytes. -/
theorem conserved (housed : Housed others pool) : pool.used + pool.freeBytes = pool.reserved := by
  rw [housed.reserved, ← housed.partition.bytes, blockBytes_append, housed.used, Nat.add_comm]
  rfl

/-- The segments of the pool are segments of the device. -/
theorem mem_ranges (housed : Housed others pool) {segment : Segment}
    (member : segment ∈ pool.segments) : segment ∈ pool.device.ranges :=
  housed.shares.mem_iff.mpr (List.mem_append_left others member)

/-- No other has a segment with the base of one of the pool. -/
theorem others_apart (housed : Housed others pool) {segment : Segment}
    (member : segment ∈ pool.segments) : segment.base ∉ others.map Segment.base := by
  have distinct := (housed.shares.map Segment.base).nodup_iff.mp housed.device.separate.distinct
  rw [List.map_append] at distinct
  exact List.disjoint_of_nodup_append distinct (List.mem_map_of_mem member)

/-- Without others the segments are those of the device. -/
theorem wellFormed (housed : Housed [] pool) : pool.WellFormed where
  device := housed.device
  backed := by
    have shares := housed.shares
    rw [List.append_nil] at shares
    exact (housed.device.separate.eq_of_perm housed.partition.separate shares).symm
  partition := housed.partition
  reserved := housed.reserved
  bounded := housed.bounded
  used := housed.used

end Housed

namespace WellFormed

/-- A pool that has its device to itself. -/
theorem housed (wellFormed : pool.WellFormed) : Housed [] pool where
  device := wellFormed.device
  shares := by rw [List.append_nil, wellFormed.backed]
  partition := wellFormed.partition
  reserved := wellFormed.reserved
  bounded := wellFormed.bounded
  used := wellFormed.used

/-- The reserved bytes are the bytes that the device has handed out. -/
theorem allocated (wellFormed : pool.WellFormed) : pool.device.allocatedBytes = pool.reserved :=
  wellFormed.housed.allocated

/-- The used and the free bytes are the reserved bytes. -/
theorem conserved (wellFormed : pool.WellFormed) : pool.used + pool.freeBytes = pool.reserved :=
  wellFormed.housed.conserved

end WellFormed

/-- The blocks after the front of a free block was lent, the lent one first. -/
theorem carve_perm (pool : Pool HostMemory) (block : Block) (size : Nat) :
    ((pool.carve block size).free ++ (pool.carve block size).live).Perm
      (⟨block.address, size, block.segment⟩ ::
        ((if size < block.size then
          [⟨block.address + size, block.size - size, block.segment⟩] else []) ++
            (eraseAt block.address pool.free ++ pool.live))) := by
  refine List.perm_middle.trans (.cons _ ?_)
  rw [← List.append_assoc]
  refine .append_right _ ?_
  simp only [carve]
  split
  · exact insertFree_perm _ _
  · exact .refl _

/-- Lending a part of a free block keeps the invariant. -/
theorem carve_housed (housed : Housed others pool) {size : Nat} (member : block ∈ pool.free)
    (enough : size ≤ block.size) (positive : 0 < size) (rounded : alignment ∣ size) :
    Housed others (pool.carve block size) where
  device := housed.device
  shares := housed.shares
  partition := by
    refine Partition.perm ?_ (carve_perm pool block size).symm
    have before := housed.partition.perm
      ((eraseAt_perm member housed.free_distinct).append_right pool.live)
    by_cases less : size < block.size
    · rw [if_pos less]
      exact before.split positive less rounded
    · have same : size = block.size := by omega
      rw [if_neg less, same]
      exact before
  reserved := housed.reserved
  bounded := housed.bounded
  used := by
    simp only [carve, blockBytes_cons, housed.used]
    omega

/-- One of the free blocks beside a loose block is put next to it. -/
theorem loose_perm (partition : Partition segments (block :: (free ++ live)))
    (member : other ∈ free) :
    (block :: (free ++ live)).Perm (block :: other :: (eraseAt other.address free ++ live)) := by
  have distinct := partition.distinct
  rw [List.map_cons, List.map_append] at distinct
  have freeDistinct := (List.nodup_append.mp (List.nodup_cons.mp distinct).2).1
  exact ((eraseAt_perm member freeDistinct).append_right live).cons block

/-- The join with the next free block keeps the tiling. -/
theorem joinNext_partition (partition : Partition segments (block :: (free ++ live))) :
    Partition segments ((joinNext block free).1 :: ((joinNext block free).2 ++ live)) := by
  rw [joinNext]
  split
  case h_1 next found =>
    obtain ⟨member, adjacent⟩ := blockAt?_some found
    split
    case isTrue sameSegment =>
      exact (partition.perm (loose_perm partition member)).join (eq_of_beq sameSegment) adjacent
    case isFalse => exact partition
  case h_2 => exact partition

/-- The join with the previous free block keeps the tiling. -/
theorem joinPrevious_partition (partition : Partition segments (block :: (free ++ live))) :
    Partition segments ((joinPrevious block free).1 :: ((joinPrevious block free).2 ++ live)) := by
  rw [joinPrevious]
  split
  case h_1 previous found =>
    have member := List.mem_of_mem_filter (List.mem_of_getLast? found)
    split
    case isTrue joinable =>
      simp only [Bool.and_eq_true, beq_iff_eq] at joinable
      have swapped := (partition.perm (loose_perm partition member)).perm (.swap _ _ _)
      have joined := swapped.join joinable.1.symm joinable.2.symm
      rwa [joinable.1] at joined
    case isFalse => exact partition
  case h_2 => exact partition

/-- The blocks after a live block was made free, up to their order. -/
theorem retire_perm (pool : Pool HostMemory) (block : Block) :
    ((pool.retire block).free ++ (pool.retire block).live).Perm
      ((joinPrevious (joinNext block pool.free).1 (joinNext block pool.free).2).1 ::
        ((joinPrevious (joinNext block pool.free).1 (joinNext block pool.free).2).2 ++
          eraseAt block.address pool.live)) :=
  (insertFree_perm _ _).append_right _

/-- Making a live block free keeps the invariant. -/
theorem retire_housed (housed : Housed others pool) (member : block ∈ pool.live) :
    Housed others (pool.retire block) where
  device := housed.device
  shares := housed.shares
  partition := by
    have erased := eraseAt_perm member housed.live_distinct
    have loose := housed.partition.perm ((erased.append_left pool.free).trans List.perm_middle)
    exact (joinPrevious_partition (joinNext_partition loose)).perm (retire_perm pool block).symm
  reserved := housed.reserved
  bounded := housed.bounded
  used := by
    have bytes := blockBytes_perm (eraseAt_perm member housed.live_distinct)
    rw [blockBytes_cons, ← housed.used] at bytes
    simp only [retire]
    omega

/-- A segment behind all others goes to the end of the list. -/
theorem insertSegment_behind {segment : Segment}
    (behind : ∀ other ∈ segments, other.base ≤ segment.base) :
    insertSegment segment segments = segments ++ [segment] := by
  induction segments with
  | nil => rfl
  | cons first rest ih =>
      have notBefore : ¬segment.base < first.base := by
        have := behind first (by simp)
        omega
      rw [insertSegment, if_neg notBefore, ih fun other member =>
        behind other (List.mem_cons_of_mem _ member), List.cons_append]

/-- The pool with a fresh segment of the device. -/
def enlarge (pool : Pool HostMemory) (size : Nat) : Pool HostMemory :=
  pool.attach (pool.device.extend size) ⟨pool.device.nextAddress, size⟩ size

/-- The pool after the device used up the addresses of a segment. -/
def skip (pool : Pool HostMemory) (size : Nat) : Pool HostMemory :=
  { pool with device := pool.device.skip size }

@[simp] theorem skip_zero (pool : Pool HostMemory) : pool.skip 0 = pool := rfl

/-- Addresses that are used up keep the invariant. -/
theorem skip_housed (housed : Housed others pool) (size : Nat) : Housed others (pool.skip size) where
  device := housed.device.skip size
  shares := housed.shares
  partition := housed.partition
  reserved := housed.reserved
  bounded := housed.bounded
  used := housed.used

/-- A request for a segment is refused, at most with addresses used up, or it enlarges the pool. -/
theorem addSegment_cases (pool : Pool HostMemory) (size : Nat) :
    (∃ error skipped, pool.addSegment size = (.error error, pool.skip skipped)) ∨
      (pool.addSegment size = (.ok (), pool.enlarge size) ∧ 0 < size ∧
        pool.device.allocatedBytes + size ≤ pool.device.capacity) := by
  simp only [addSegment, HostMemory.allocator_allocate]
  rcases HostMemory.allocate_cases pool.device size with
    ⟨error, skipped, refused⟩ | ⟨granted, facts⟩
  · exact .inl ⟨error, skipped, by rw [refused]; rfl⟩
  · exact .inr ⟨by rw [granted]; rfl, facts⟩

/-- The segments after a fresh one of the device came. -/
theorem enlarge_segments (housed : Housed others pool) (size : Nat) :
    (pool.enlarge size).segments = pool.segments ++ [⟨pool.device.nextAddress, size⟩] := by
  refine insertSegment_behind ?_
  intro other member
  have below := housed.device.below other (housed.mem_ranges member)
  exact (Nat.le_add_right _ _).trans below

/-- A fresh segment keeps the invariant. -/
theorem enlarge_housed (housed : Housed others pool) {size : Nat} (positive : 0 < size)
    (room : pool.device.allocatedBytes + size ≤ pool.device.capacity)
    (ceiling : pool.reserved + size ≤ pool.config.maximum) :
    Housed others (pool.enlarge size) := by
  have below : ∀ other ∈ pool.segments, other.stop ≤ pool.device.nextAddress :=
    fun other member => housed.device.below other (housed.mem_ranges member)
  refine ⟨housed.device.extend positive room, ?_, ?_, ?_, ceiling, housed.used⟩
  · rw [enlarge_segments housed, List.append_assoc]
    refine (List.Perm.of_eq (HostMemory.ranges_extend _ _)).trans ?_
    have moved := housed.shares.append_right [(⟨pool.device.nextAddress, size⟩ : Segment)]
    rw [List.append_assoc] at moved
    exact moved.trans (List.perm_append_comm.append_left pool.segments)
  · rw [enlarge_segments housed]
    refine Partition.perm ?_ ((insertFree_perm _ _).append_right _).symm
    exact housed.partition.addSegment positive below housed.device.nextAligned
  · rw [enlarge_segments housed, segmentBytes_concat, ← housed.reserved]
    rfl

/-- An idle segment is one free block. -/
theorem isIdle_whole (housed : Housed others pool) {segment : Segment}
    (member : segment ∈ pool.segments) (idle : pool.isIdle segment) : segment.whole ∈ pool.free := by
  rw [isIdle] at idle
  split at idle
  case h_1 block found =>
    -- The block at the base could be recorded elsewhere, but the segments do not overlap.
    obtain ⟨blockMember, address⟩ := blockAt?_some found
    have everywhere := List.mem_append_left pool.live blockMember
    obtain ⟨place, placeMember, lies⟩ := housed.partition.placed block everywhere
    have positive := housed.partition.positive block everywhere
    have size := eq_of_beq idle
    have same : segment = place := by
      refine housed.partition.separate.unique member placeMember ⟨le_refl _, ?_⟩
        ⟨address ▸ lies.lower, address ▸ ?_⟩
      · simp only [Segment.stop]
        omega
      · exact lt_of_lt_of_le (Block.covers_address positive).2 lies.upper
    have whole : segment.whole = block := by
      rw [show block = ⟨block.address, block.size, block.segment⟩ from rfl, address, size,
        lies.recorded, same, Segment.whole]
    rwa [whole]
  case h_2 => cases idle

/-- The device takes a segment of the pool back. -/
theorem dropSegment_device (housed : Housed others pool) {segment : Segment}
    (member : segment ∈ pool.segments) :
    ∃ allocation ∈ pool.device.segments, allocation.segment = segment ∧
      (pool.dropSegment segment).device = pool.device.remove allocation := by
  obtain ⟨allocation, allocationMember, rfl⟩ := List.mem_map.mp (housed.mem_ranges member)
  refine ⟨allocation, allocationMember, rfl, ?_⟩
  have released := HostMemory.release_base housed.device allocationMember
  simp only [dropSegment, HostMemory.allocator_release]
  exact congrArg Prod.snd released

/-- Giving an idle segment up keeps the invariant. -/
theorem dropSegment_housed (housed : Housed others pool) {segment : Segment}
    (member : segment ∈ pool.segments) (idle : pool.isIdle segment) :
    Housed others (pool.dropSegment segment) := by
  obtain ⟨allocation, allocationMember, rfl, device⟩ := dropSegment_device housed member
  have whole := isIdle_whole housed member idle
  have bytes := housed.partition.separate.bytes_drop member
  have reserved : (pool.dropSegment allocation.segment).reserved =
      segmentBytes (pool.dropSegment allocation.segment).segments := by
    simp only [dropSegment, housed.reserved]
    omega
  refine ⟨?_, ?_, ?_, reserved, (Nat.sub_le _ _).trans housed.bounded, housed.used⟩
  · rw [device]
    exact housed.device.remove allocationMember
  · have kept := housed.shares.filter fun other => other.base != allocation.segment.base
    rw [List.filter_append, Keyed.filter_absent Segment.base (housed.others_apart member)] at kept
    rw [device, HostMemory.ranges_remove]
    exact kept
  · have erased := eraseAt_perm whole housed.free_distinct
    exact (housed.partition.perm (erased.append_right pool.live)).dropSegment member

end DeviceKernels.Pool
