import DeviceKernels.Proofs.Memory.Gaps

/-
What trimming gives back. A trim releases exactly the segments without live blocks, so a second
one finds nothing, and a pool without loans gives up all that it has.
-/

namespace DeviceKernels

/-- The segments that pass a test and those that fail it have all the bytes. -/
theorem segmentBytes_filter (segments : List Segment) (test : Segment → Bool) :
    segmentBytes (segments.filter test) + segmentBytes (segments.filter fun segment => !test segment) =
      segmentBytes segments := by
  rw [← segmentBytes_append]
  exact segmentBytes_perm (List.filter_append_perm test segments)

namespace Pool

/-- Some live block is recorded under the segment. -/
def isOccupied (pool : Pool HostMemory) (segment : Segment) : Bool :=
  pool.live.any fun block => block.segment == segment.base

/-- The free blocks that are recorded under the segment. -/
def freeIn (pool : Pool HostMemory) (segment : Segment) : List Block :=
  pool.free.filter fun block => block.segment == segment.base

/-- The bytes of the segments without live blocks. -/
def idleBytes (pool : Pool HostMemory) : Nat :=
  segmentBytes (pool.segments.filter fun segment => !pool.isOccupied segment)

variable {pool : Pool HostMemory} {others : List Segment}

/-- In a tidy pool a segment is idle exactly if it is not occupied. -/
theorem isIdle_eq (housed : Housed others pool) (tidy : Tidy pool.free) {segment : Segment}
    (member : segment ∈ pool.segments) : pool.isIdle segment = !pool.isOccupied segment := by
  rw [Bool.eq_iff_iff, isIdle_iff housed tidy member]
  simp [isOccupied]

theorem idleSegments_eq (housed : Housed others pool) (tidy : Tidy pool.free) :
    pool.idleSegments = pool.segments.filter fun segment => !pool.isOccupied segment := by
  rw [idleSegments]
  apply List.filter_congr
  intro segment member
  exact isIdle_eq housed tidy member

/-- Giving segments up keeps those with other bases. -/
theorem dropAll_segments (gone : List Segment) (pool : Pool HostMemory) :
    (gone.foldl dropSegment pool).segments =
      pool.segments.filter fun segment => segment.base ∉ gone.map Segment.base := by
  induction gone generalizing pool with
  | nil => simp
  | cons segment rest ih =>
      rw [List.foldl_cons, ih, dropSegment, List.filter_filter]
      apply List.filter_congr
      intro other _
      by_cases same : other.base = segment.base <;> simp [same]

/-- Giving segments up takes the free blocks at their bases away. -/
theorem dropAll_free (gone : List Segment) (pool : Pool HostMemory) :
    (gone.foldl dropSegment pool).free =
      pool.free.filter fun block => block.address ∉ gone.map Segment.base := by
  induction gone generalizing pool with
  | nil => simp
  | cons segment rest ih =>
      rw [List.foldl_cons, ih, dropSegment, eraseAt, List.filter_filter]
      apply List.filter_congr
      intro block _
      by_cases same : block.address = segment.base <;> simp [same]

/-- A trim keeps the invariant. -/
theorem trim_housed (housed : Housed others pool) : Housed others pool.trim.2 :=
  (trim_restocks housed).housed housed

/-- A trim counts the bytes of the segments without live blocks. -/
theorem trim_released (housed : Housed others pool) (tidy : Tidy pool.free) :
    pool.trim.1 = pool.idleBytes := by
  rw [idleBytes, ← idleSegments_eq housed tidy]
  rfl

/-- A trim keeps exactly the segments with live blocks. -/
theorem trim_segments (housed : Housed others pool) (tidy : Tidy pool.free) :
    pool.trim.2.segments = pool.segments.filter pool.isOccupied := by
  rw [trim, dropAll_segments, idleSegments_eq housed tidy]
  apply List.filter_congr
  intro segment member
  -- The bases tell the segments apart, so only the segment itself can have its base.
  rw [Bool.eq_iff_iff, decide_eq_true_iff, List.mem_map]
  constructor
  · intro kept
    by_contra idle
    refine kept ⟨segment, List.mem_filter.mpr ⟨member, ?_⟩, rfl⟩
    simpa using idle
  · rintro occupied ⟨other, idle, sameBase⟩
    obtain ⟨otherMember, free⟩ := List.mem_filter.mp idle
    rw [List.inj_on_of_nodup_map housed.partition.separate.distinct otherMember member sameBase,
      occupied] at free
    cases free

/-- A trim keeps the free blocks of the segments with live blocks. -/
theorem trim_freeIn (housed : Housed others pool) (tidy : Tidy pool.free) {segment : Segment}
    (member : segment ∈ pool.segments) (occupied : pool.isOccupied segment) :
    pool.trim.2.freeIn segment = pool.freeIn segment := by
  rw [freeIn, freeIn, trim, dropAll_free, List.filter_filter]
  apply List.filter_congr
  intro block blockMember
  rw [Bool.and_eq_left_iff_imp, decide_eq_true_iff, List.mem_map]
  -- A block that goes is the whole of an idle segment, and only that segment is recorded for it.
  rintro recorded ⟨other, idle, sameAddress⟩
  obtain ⟨otherMember, otherIdle⟩ := List.mem_filter.mp idle
  have whole := isIdle_whole housed otherMember otherIdle
  have same : block = other.whole :=
    List.inj_on_of_nodup_map housed.free_distinct blockMember whole sameAddress.symm
  have sameBase : other.base = segment.base := by
    rw [same] at recorded
    exact eq_of_beq recorded
  rw [List.inj_on_of_nodup_map housed.partition.separate.distinct otherMember member sameBase,
    isIdle_eq housed tidy member, occupied] at otherIdle
  cases otherIdle

/-- The released bytes are no longer reserved. -/
theorem trim_reserved (housed : Housed others pool) (tidy : Tidy pool.free) :
    pool.trim.2.reserved + pool.trim.1 = pool.reserved := by
  rw [(trim_housed housed).reserved, trim_segments housed tidy, trim_released housed tidy,
    idleBytes, segmentBytes_filter, housed.reserved]

/-- The released bytes are no longer allocated. -/
theorem trim_allocated (housed : Housed others pool) (tidy : Tidy pool.free) :
    pool.trim.2.device.allocatedBytes + pool.trim.1 = pool.device.allocatedBytes := by
  rw [(trim_housed housed).allocated, housed.allocated]
  have released := trim_reserved housed tidy
  omega

end Pool

end DeviceKernels
