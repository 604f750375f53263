import DeviceKernels.Proofs.Memory.Restocking

/-
What device memory holds, byte by byte. A read returns the bytes that the memory holds, a write
puts its bytes there and leaves all others, and a pool that is restocked keeps the bytes of its
live blocks.
-/

namespace DeviceKernels

namespace HostMemory

/-- The memory has the byte at the address. -/
def Holds (memory : HostMemory) (address : Nat) (byte : UInt8) : Prop :=
  ∃ allocation ∈ memory.segments, allocation.segment.Covers address ∧
    allocation.byteAt (address - allocation.base) = byte

/-- The whole range lies in the allocation, which goes on at the first address. -/
structure Encloses (allocation : Allocation) (address length : Nat) : Prop where
  covers : allocation.segment.Covers address
  upper : address + length ≤ allocation.segment.stop

variable {memory : HostMemory} {allocation found : Allocation} {address length : Nat}
  {bytes : Bytes} {byte : UInt8}

/-- Every address of the range belongs to the allocation. -/
theorem Encloses.inside (encloses : Encloses allocation address length) {position : Nat}
    (within : position < length) : allocation.segment.Covers (address + position) := by
  obtain ⟨⟨lower, -⟩, upper⟩ := encloses
  constructor <;> omega

/-- The part of the range up to a shorter length is enclosed too. -/
theorem Encloses.shorter (encloses : Encloses allocation address length) {less : Nat}
    (within : less ≤ length) : Encloses allocation address less := by
  obtain ⟨covers, upper⟩ := encloses
  exact ⟨covers, by omega⟩

/-- The memory has one byte at an address at most. -/
theorem Holds.unique (wellFormed : memory.WellFormed) {other : UInt8}
    (holds : memory.Holds address byte) (otherHolds : memory.Holds address other) :
    byte = other := by
  obtain ⟨allocation, member, covers, rfl⟩ := holds
  obtain ⟨second, secondMember, secondCovers, rfl⟩ := otherHolds
  rw [wellFormed.unique member secondMember covers secondCovers]

/-- The last of some segments in order is the last by address. -/
theorem getLast?_last {segments : List Allocation} {last : Allocation}
    (ordered : segments.Pairwise fun first second => first.segment.stop ≤ second.base)
    (found : segments.getLast? = some last) (member : allocation ∈ segments) :
    allocation = last ∨ allocation.segment.stop ≤ last.base := by
  obtain ⟨front, rfl⟩ := List.getLast?_eq_some_iff.mp found
  rcases List.mem_append.mp member with before | final
  · exact .inr ((List.pairwise_append.mp ordered).2.2 allocation before last (by simp))
  · exact .inl (List.mem_singleton.mp final)

/-- A range inside an allocation is located there. -/
theorem locate_inside (wellFormed : memory.WellFormed) (member : allocation ∈ memory.segments)
    (encloses : Encloses allocation address length) :
    memory.locate address length = .ok allocation := by
  obtain ⟨⟨lower, inside⟩, upper⟩ := encloses
  have candidate : allocation ∈ memory.segments.filter fun segment => segment.base ≤ address :=
    List.mem_filter.mpr ⟨member, decide_eq_true lower⟩
  have ordered := List.pairwise_map.mp wellFormed.separate.ordered
  -- The last candidate is the allocation itself: a later one would begin behind the address.
  rw [locate]
  split
  case h_1 none => simp [List.getLast?_eq_none_iff.mp none] at candidate
  case h_2 last found =>
    have lastBase : last.base ≤ address := by
      simpa using (List.mem_filter.mp (List.mem_of_getLast? found)).2
    rcases getLast?_last (ordered.filter _) found candidate with rfl | before
    · rw [if_neg]
      simp only [Segment.stop, Allocation.segment] at lower upper
      omega
    · omega

/-- A read inside an allocation returns what the memory holds. -/
theorem read_inside (wellFormed : memory.WellFormed) (member : allocation ∈ memory.segments)
    (encloses : Encloses allocation address length) :
    ∃ bytes, memory.read address length = .ok bytes ∧ bytes.length = length ∧
      ∀ position byte, bytes[position]? = some byte → memory.Holds (address + position) byte := by
  refine ⟨allocation.read (address - allocation.base) length, ?_, by simp [Allocation.read], ?_⟩
  · simp [read, locate_inside wellFormed member encloses, bind, Except.bind]
  · intro position byte found
    simp only [Allocation.read, List.getElem?_map, Option.map_eq_some_iff,
      List.getElem?_eq_some_iff, List.length_range, List.getElem_range] at found
    obtain ⟨index, ⟨within, rfl⟩, rfl⟩ := found
    refine ⟨allocation, member, encloses.inside within, ?_⟩
    have lower : allocation.base ≤ address := encloses.covers.1
    rw [Nat.sub_add_comm lower]

/-- A range that holds in another memory what it holds in this one reads the same there. -/
theorem read_eq {other : HostMemory} {place : Allocation} (wellFormed : memory.WellFormed)
    (otherWellFormed : other.WellFormed) (member : allocation ∈ memory.segments)
    (encloses : Encloses allocation address length) (placeMember : place ∈ other.segments)
    (placeEncloses : Encloses place address length)
    (keeps : ∀ position < length, ∀ byte, memory.Holds (address + position) byte →
      other.Holds (address + position) byte) :
    other.read address length = memory.read address length := by
  obtain ⟨old, oldRead, oldLength, oldHolds⟩ := read_inside wellFormed member encloses
  obtain ⟨new, newRead, newLength, newHolds⟩ :=
    read_inside otherWellFormed placeMember placeEncloses
  rw [oldRead, newRead]
  congr 1
  apply List.ext_getElem (newLength.trans oldLength.symm)
  intro position newWithin oldWithin
  have held := keeps position (newLength ▸ newWithin) _
    (oldHolds position _ (List.getElem?_eq_getElem oldWithin))
  have found := newHolds position _ (List.getElem?_eq_getElem newWithin)
  exact found.unique otherWellFormed held

/-- A write inside an allocation succeeds and patches the allocation. -/
theorem write_inside (wellFormed : memory.WellFormed) (member : allocation ∈ memory.segments)
    (encloses : Encloses allocation address bytes.length) :
    memory.write address bytes =
      .ok (memory.patch allocation.base (address - allocation.base) bytes) := by
  simp [write, locate_inside wellFormed member encloses, bind, Except.bind]

/-- A write is refused, or it is one patch. -/
theorem write_cases (memory : HostMemory) (address : Nat) (bytes : Bytes) :
    (∃ error, memory.write address bytes = .error error) ∨
      ∃ base offset, memory.write address bytes = .ok (memory.patch base offset bytes) := by
  rw [write]
  cases memory.locate address bytes.length with
  | error error => exact .inl ⟨error, rfl⟩
  | ok found => exact .inr ⟨_, _, rfl⟩

/-- The allocation at the place of another after a patch. -/
theorem mem_patch (base offset : Nat) (bytes : Bytes) (member : allocation ∈ memory.segments) :
    (if allocation.base == base then allocation.write offset bytes else allocation) ∈
      (memory.patch base offset bytes).segments :=
  List.mem_map_of_mem member

/-- The patched range has the bytes of the patch. -/
theorem patch_hit {position : Nat} (member : allocation ∈ memory.segments)
    (encloses : Encloses allocation address bytes.length) (found : bytes[position]? = some byte) :
    (memory.patch allocation.base (address - allocation.base) bytes).Holds
      (address + position) byte := by
  have within : position < bytes.length := (List.getElem?_eq_some_iff.mp found).1
  have there := mem_patch allocation.base (address - allocation.base) bytes member
  rw [if_pos (beq_self_eq_true _)] at there
  refine ⟨_, there, encloses.inside within, ?_⟩
  have lower : allocation.base ≤ address := encloses.covers.1
  have place : address + position - allocation.base - (address - allocation.base) = position := by
    omega
  have behind : address - allocation.base ≤ address + position - allocation.base := by omega
  change (allocation.write _ bytes).byteAt (address + position - allocation.base) = byte
  rw [Allocation.byteAt_write, if_pos behind, place, found, Option.getD_some]

/-- A patch leaves every address outside its range. -/
theorem patch_frame {other : Nat} (wellFormed : memory.WellFormed)
    (member : allocation ∈ memory.segments)
    (encloses : Encloses allocation address bytes.length)
    (outside : other < address ∨ address + bytes.length ≤ other) (holds : memory.Holds other byte) :
    (memory.patch allocation.base (address - allocation.base) bytes).Holds other byte := by
  obtain ⟨place, placeMember, covers, rfl⟩ := holds
  have there := mem_patch allocation.base (address - allocation.base) bytes placeMember
  by_cases same : place.base = allocation.base
  · have identical := List.inj_on_of_nodup_map wellFormed.distinct placeMember member same
    subst identical
    rw [if_pos (beq_self_eq_true _)] at there
    refine ⟨_, there, covers, ?_⟩
    change (place.write _ bytes).byteAt (other - place.base) = _
    rw [Allocation.byteAt_write]
    have lower : place.base ≤ address := encloses.covers.1
    have otherLower : place.base ≤ other := covers.1
    split
    · have beyond : bytes.length ≤ other - place.base - (address - place.base) := by omega
      rw [List.getElem?_eq_none beyond, Option.getD_none]
    · rfl
  · rw [if_neg (by simpa using same)] at there
    exact ⟨place, there, covers, rfl⟩

/-- A fresh segment changes no byte. -/
theorem extend_frame (size : Nat) (holds : memory.Holds address byte) :
    (memory.extend size).Holds address byte := by
  obtain ⟨allocation, member, facts⟩ := holds
  exact ⟨allocation, List.mem_append_left _ member, facts⟩

/-- A segment that goes takes only its own bytes away. -/
theorem remove_frame (wellFormed : memory.WellFormed) (member : found ∈ memory.segments)
    (outside : ¬found.segment.Covers address) (holds : memory.Holds address byte) :
    (memory.remove found).Holds address byte := by
  obtain ⟨allocation, allocationMember, covers, value⟩ := holds
  refine ⟨allocation, List.mem_filter.mpr ⟨allocationMember, bne_iff_ne.mpr ?_⟩, covers, value⟩
  intro same
  rw [List.inj_on_of_nodup_map wellFormed.distinct allocationMember member same] at covers
  exact outside covers

end HostMemory

namespace Pool

variable {pool final : Pool HostMemory} {block : Block} {address : Nat} {byte : UInt8}

/-- Every live block lies in one allocation of the device. -/
theorem live_enclosed {others : List Segment} (housed : Housed others pool)
    (member : block ∈ pool.live) : ∃ allocation ∈ pool.device.segments,
      HostMemory.Encloses allocation block.address block.size := by
  have everywhere := List.mem_append_right pool.free member
  obtain ⟨segment, segmentMember, lies⟩ := housed.partition.placed block everywhere
  have positive := housed.partition.positive block everywhere
  obtain ⟨allocation, allocationMember, rfl⟩ := List.mem_map.mp (housed.mem_ranges segmentMember)
  refine ⟨allocation, allocationMember, ⟨lies.lower, ?_⟩, lies.upper⟩
  exact lt_of_lt_of_le (Block.covers_address positive).2 lies.upper

/-- The blocks of two different loans do not overlap. -/
theorem live_apart {others : List Segment} (housed : Housed others pool) {other : Block}
    (member : block ∈ pool.live) (otherMember : other ∈ pool.live)
    (different : block.address ≠ other.address) : block.Apart other := by
  have apart := (List.pairwise_append.mp housed.partition.apart).2.1
  have symmetric : Std.Symm Block.Apart := ⟨fun _ _ apart => Block.apart_symm apart⟩
  exact apart.forall member otherMember fun same => different (congrArg Block.address same)

/-- A write is refused, or it is one patch of the device. -/
theorem write_cases (pool : Pool HostMemory) (buffer : Buffer) (bytes : Bytes) :
    (∃ error, pool.write buffer bytes = .error error) ∨
      ∃ base offset, pool.write buffer bytes =
        .ok { pool with device := pool.device.patch base offset bytes } := by
  rw [write]
  split
  · exact .inl ⟨_, rfl⟩
  · rcases pool.device.write_cases buffer.address bytes with ⟨error, refused⟩ | ⟨base, offset, done⟩
    · exact .inl ⟨error, congrArg (Except.map _) refused⟩
    · exact .inr ⟨base, offset, congrArg (Except.map _) done⟩

/-- A patch of the device keeps the invariant. -/
theorem patch_housed {others : List Segment} (housed : Housed others pool) (base offset : Nat)
    (bytes : Bytes) : Housed others { pool with device := pool.device.patch base offset bytes } where
  device := housed.device.patch base offset bytes
  shares := by
    rw [HostMemory.ranges_patch]
    exact housed.shares
  partition := housed.partition
  reserved := housed.reserved
  bounded := housed.bounded
  used := housed.used

/-- A restocking keeps the bytes of the live blocks. -/
theorem Restocks.holds {others : List Segment} (restocks : Restocks pool final)
    (housed : Housed others pool) (member : block ∈ pool.live) (covers : block.Covers address)
    (holds : pool.device.Holds address byte) : final.device.Holds address byte := by
  induction restocks with
  | refl => exact holds
  | skip size _ ih => exact ih (skip_housed housed size) member holds
  | enlarge positive room ceiling _ ih =>
      exact ih (enlarge_housed housed positive room ceiling) member
        (HostMemory.extend_frame _ holds)
  | @drop pool final segment segmentMember idle _ ih =>
      refine ih (dropSegment_housed housed segmentMember idle) member ?_
      obtain ⟨allocation, allocationMember, rfl, device⟩ :=
        dropSegment_device housed segmentMember
      have whole := isIdle_whole housed segmentMember idle
      have apart := (List.pairwise_append.mp housed.partition.apart).2.2 _ whole block member
      rw [device]
      exact HostMemory.remove_frame housed.device allocationMember
        (fun inside => apart address inside covers) holds

/-- A restocking keeps what is read of the live blocks. -/
theorem Restocks.read_live {others : List Segment} (restocks : Restocks pool final)
    (housed : Housed others pool) (member : block ∈ pool.live) {length : Nat}
    (within : length ≤ block.size) :
    final.device.read block.address length = pool.device.read block.address length := by
  have kept := restocks.housed housed
  obtain ⟨allocation, allocationMember, encloses⟩ := live_enclosed housed member
  obtain ⟨place, placeMember, placeEncloses⟩ :=
    live_enclosed kept (restocks.sameLoans.live.symm ▸ member)
  refine HostMemory.read_eq housed.device kept.device allocationMember (encloses.shorter within)
    placeMember (placeEncloses.shorter within) ?_
  intro position inside byte holds
  refine restocks.holds housed member ⟨Nat.le_add_right _ _, ?_⟩ holds
  simp only [Block.stop]
  omega

end Pool

end DeviceKernels
