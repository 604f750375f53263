import DeviceKernels.Proofs.Memory.Restocking

/-
A tidy free list is in the order of the addresses and joins what touches, so its blocks are
exactly the maximal ranges that no live block of their segment meets; the segments and the live
blocks determine it.
-/

namespace DeviceKernels

/-- Blocks in the order of their addresses, none of which begins where another one of its segment
ends. -/
structure Tidy (free : List Block) : Prop where
  ordered : free.Pairwise fun first second => first.address < second.address
  spaced : ∀ first ∈ free, ∀ second ∈ free, first.segment = second.segment →
    first.stop ≠ second.address

/-- The block has room in a segment and meets no live block. -/
structure Block.Vacant (segments : List Segment) (live : List Block) (block : Block) : Prop where
  placed : ∃ segment ∈ segments, block.LiesIn segment
  positive : 0 < block.size
  apart : ∀ other ∈ live, block.Apart other

/-- No larger block of the segment has room as well. -/
structure Block.IsGap (segments : List Segment) (live : List Block) (block : Block) : Prop where
  vacant : block.Vacant segments live
  maximal : ∀ larger : Block, larger.Vacant segments live → larger.segment = block.segment →
    (∀ address, block.Covers address → larger.Covers address) → larger = block

/-- Different blocks begin at different addresses. -/
theorem Tidy.distinct {free : List Block} (tidy : Tidy free) :
    (free.map Block.address).Nodup :=
  List.pairwise_map.mpr (tidy.ordered.imp Nat.ne_of_lt)

/-- The last address of a block that is not empty. -/
theorem Block.covers_last {block : Block} (positive : 0 < block.size) :
    block.Covers (block.stop - 1) := by
  simp only [Covers, stop]
  omega

/-- A block is where it begins, where it ends and its segment. -/
theorem Block.eq_of_ends {first second : Block} (begins : first.address = second.address)
    (ends : first.stop = second.stop) (recorded : first.segment = second.segment) :
    first = second := by
  cases first
  cases second
  simp only [stop] at begins ends recorded
  simp only [Block.mk.injEq]
  omega

/-- A block that covers another one begins no later and ends no earlier. -/
theorem Block.ends_of_covers {larger block : Block} (positive : 0 < block.size)
    (around : ∀ address, block.Covers address → larger.Covers address) :
    larger.address ≤ block.address ∧ block.stop ≤ larger.stop := by
  have start := around block.address (covers_address positive)
  have finish := around (block.stop - 1) (covers_last positive)
  simp only [Covers, stop] at start finish ⊢
  omega

namespace Partition

variable {segments : List Segment} {blocks free live others : List Block}
  {block first second : Block} {address : Nat}

/-- An address belongs to one block at most. -/
theorem unique (partition : Partition segments blocks) (firstMember : first ∈ blocks)
    (secondMember : second ∈ blocks) (inFirst : first.Covers address)
    (inSecond : second.Covers address) : first = second := by
  by_contra different
  have symmetric : Std.Symm Block.Apart := ⟨fun _ _ apart => Block.apart_symm apart⟩
  exact partition.apart.forall firstMember secondMember different address inFirst inSecond

/-- A free block has room. -/
theorem free_vacant (partition : Partition segments (free ++ live)) (member : block ∈ free) :
    block.Vacant segments live where
  placed := partition.placed block (List.mem_append_left live member)
  positive := partition.positive block (List.mem_append_left live member)
  apart other otherMember := (List.pairwise_append.mp partition.apart).2.2 block member other
    otherMember

/-- Where there is room there is a free block of the segment. -/
theorem vacant_free (partition : Partition segments (free ++ live))
    (vacant : block.Vacant segments live) (covers : block.Covers address) :
    ∃ other ∈ free, other.segment = block.segment ∧ other.Covers address := by
  obtain ⟨segment, member, lies⟩ := vacant.placed
  have inside : segment.Covers address :=
    ⟨lies.lower.trans covers.1, lt_of_lt_of_le covers.2 lies.upper⟩
  obtain ⟨other, otherMember, recorded, inOther⟩ := partition.covered segment member address inside
  rcases List.mem_append.mp otherMember with isFree | isLive
  · exact ⟨other, isFree, recorded.trans lies.recorded.symm, inOther⟩
  · exact absurd inOther (vacant.apart other isLive address covers)

/-- The block of the address before another block ends where that one begins. -/
theorem stop_of_covers_before (partition : Partition segments blocks) (firstMember : first ∈ blocks)
    (secondMember : second ∈ blocks) (behind : 0 < second.address)
    (inFirst : first.Covers (second.address - 1)) : first.stop = second.address := by
  by_contra apart
  have inBoth : first.Covers second.address := by
    simp only [Block.Covers] at inFirst ⊢
    omega
  have same := partition.unique firstMember secondMember inBoth
    (Block.covers_address (partition.positive second secondMember))
  rw [same, Block.Covers] at inFirst
  omega

/-- The block of the address at which another block ends begins there. -/
theorem address_of_covers_stop (partition : Partition segments blocks)
    (firstMember : first ∈ blocks) (secondMember : second ∈ blocks)
    (inSecond : second.Covers first.stop) : second.address = first.stop := by
  by_contra apart
  have inBoth : second.Covers (first.stop - 1) := by
    simp only [Block.Covers] at inSecond ⊢
    omega
  have same := partition.unique secondMember firstMember inBoth
    (Block.covers_last (partition.positive first firstMember))
  rw [same, Block.Covers] at inSecond
  omega

/-- A free block that shares an address with the room around it takes all of it. -/
theorem vacant_within (partition : Partition segments (free ++ live)) (tidy : Tidy free)
    (vacant : block.Vacant segments live) (member : first ∈ free)
    (recorded : first.segment = block.segment) (covers : block.Covers address)
    (inFirst : first.Covers address) :
    first.address ≤ block.address ∧ block.stop ≤ first.stop := by
  have everywhere {other : Block} (isFree : other ∈ free) : other ∈ free ++ live :=
    List.mem_append_left live isFree
  -- Room beyond an end of the free block would belong to a free block that touches it there.
  constructor
  · by_contra before
    have inBlock : block.Covers (first.address - 1) := by
      simp only [Block.Covers, Block.stop] at covers inFirst ⊢
      omega
    obtain ⟨second, secondMember, sameSegment, inSecond⟩ := partition.vacant_free vacant inBlock
    have touches := partition.stop_of_covers_before (everywhere secondMember) (everywhere member)
      (by omega) inSecond
    exact tidy.spaced second secondMember first member (sameSegment.trans recorded.symm) touches
  · by_contra behind
    have inBlock : block.Covers first.stop := by
      simp only [Block.Covers] at covers inFirst ⊢
      omega
    obtain ⟨second, secondMember, sameSegment, inSecond⟩ := partition.vacant_free vacant inBlock
    have touches := partition.address_of_covers_stop (everywhere member) (everywhere secondMember)
      inSecond
    exact tidy.spaced first member second secondMember (recorded.trans sameSegment.symm) touches.symm

/-- The free blocks of a tidy list are the gaps between the live blocks. -/
theorem mem_free_iff (partition : Partition segments (free ++ live)) (tidy : Tidy free) :
    block ∈ free ↔ block.IsGap segments live := by
  constructor
  · intro member
    have vacant := partition.free_vacant member
    refine ⟨vacant, ?_⟩
    intro larger room sameSegment around
    have start := Block.covers_address vacant.positive
    have within := partition.vacant_within tidy room member sameSegment.symm
      (around block.address start) start
    have beyond := Block.ends_of_covers vacant.positive around
    exact Block.eq_of_ends (beyond.1.antisymm within.1) (within.2.antisymm beyond.2) sameSegment
  · intro gap
    have covers := Block.covers_address gap.vacant.positive
    obtain ⟨other, member, recorded, inOther⟩ := partition.vacant_free gap.vacant covers
    have within := partition.vacant_within tidy gap.vacant member recorded covers inOther
    have same : other = block := by
      refine gap.maximal other (partition.free_vacant member) recorded ?_
      intro address inside
      exact ⟨within.1.trans inside.1, lt_of_lt_of_le inside.2 within.2⟩
    rwa [← same]

end Partition

namespace Tidy

variable {free rest : List Block} {block : Block}

theorem empty : Tidy [] := ⟨.nil, by simp⟩

/-- Fewer blocks stay tidy. -/
theorem sublist (tidy : Tidy free) (part : rest.Sublist free) : Tidy rest where
  ordered := tidy.ordered.sublist part
  spaced first firstMember second secondMember :=
    tidy.spaced first (part.subset firstMember) second (part.subset secondMember)

theorem eraseAt (tidy : Tidy free) (address : Nat) : Tidy (Pool.eraseAt address free) :=
  tidy.sublist List.filter_sublist

/-- An insertion keeps the order. -/
theorem insert_ordered (ordered : free.Pairwise fun first second => first.address < second.address)
    (fresh : ∀ other ∈ free, other.address ≠ block.address) :
    (Pool.insertFree block free).Pairwise fun first second => first.address < second.address := by
  induction free with
  | nil => simp [Pool.insertFree]
  | cons first rest ih =>
      obtain ⟨head, tail⟩ := List.pairwise_cons.mp ordered
      rw [Pool.insertFree]
      split
      case isTrue before =>
        refine List.pairwise_cons.mpr ⟨?_, ordered⟩
        intro other member
        rcases List.mem_cons.mp member with rfl | member
        · exact before
        · exact before.trans (head other member)
      case isFalse behind =>
        refine List.pairwise_cons.mpr ⟨?_, ih tail fun other member =>
          fresh other (List.mem_cons_of_mem _ member)⟩
        intro other member
        rcases List.mem_cons.mp ((Pool.insertFree_perm block rest).mem_iff.mp member) with
          rfl | member
        · have different := fresh first List.mem_cons_self
          omega
        · exact head other member

/-- A block that touches no block of its segment may join the list. -/
theorem insert (tidy : Tidy free) (positive : 0 < block.size)
    (fresh : ∀ other ∈ free, other.address ≠ block.address)
    (before : ∀ other ∈ free, other.segment = block.segment → other.stop ≠ block.address)
    (behind : ∀ other ∈ free, other.segment = block.segment → block.stop ≠ other.address) :
    Tidy (Pool.insertFree block free) where
  ordered := insert_ordered tidy.ordered fresh
  spaced first firstMember second secondMember recorded := by
    rw [(Pool.insertFree_perm block free).mem_iff, List.mem_cons] at firstMember secondMember
    rcases firstMember with rfl | firstMember <;> rcases secondMember with rfl | secondMember
    · simp only [Block.stop]
      omega
    · exact behind second secondMember recorded.symm
    · exact before first firstMember recorded
    · exact tidy.spaced first firstMember second secondMember recorded

/-- The last of the blocks that pass a test lies behind all others that do. -/
theorem getLast?_last (tidy : Tidy free) {test : Block → Bool} {last : Block}
    (found : (free.filter test).getLast? = some last) (member : block ∈ free)
    (passes : test block) : block = last ∨ block.address < last.address := by
  obtain ⟨front, split⟩ := List.getLast?_eq_some_iff.mp found
  have ordered := tidy.ordered.filter test
  have candidate : block ∈ free.filter test := List.mem_filter.mpr ⟨member, passes⟩
  rw [split] at ordered candidate
  rcases List.mem_append.mp candidate with earlier | final
  · exact .inr ((List.pairwise_append.mp ordered).2.2 block earlier last (by simp))
  · exact .inl (List.mem_singleton.mp final)

end Tidy

namespace Pool

variable {pool : Pool HostMemory} {segments : List Segment} {others : List Segment}
  {free live : List Block} {block other : Block}

/-- Lending the front of a free block leaves the free list tidy. -/
theorem carve_tidy (housed : Housed others pool) (tidy : Tidy pool.free) (member : block ∈ pool.free)
    {size : Nat} (positive : 0 < size) : Tidy (pool.carve block size).free := by
  have everywhere {other : Block} (member : other ∈ pool.free) : other ∈ pool.free ++ pool.live :=
    List.mem_append_left pool.live member
  simp only [carve]
  split
  case isFalse => exact tidy.eraseAt _
  case isTrue less =>
    -- Another free block shares no address with the block that was cut.
    have apart {other : Block} (kept : other ∈ eraseAt block.address pool.free) {address : Nat}
        (inOther : other.Covers address) : ¬block.Covers address := by
      intro inBlock
      obtain ⟨otherMember, different⟩ := List.mem_filter.mp kept
      have same := housed.partition.unique (everywhere otherMember) (everywhere member) inOther
        inBlock
      exact bne_iff_ne.mp different (congrArg Block.address same)
    refine (tidy.eraseAt _).insert (by simpa using less) ?_ ?_ ?_
    · intro other kept same
      have room := housed.partition.positive other (everywhere (List.mem_of_mem_filter kept))
      refine apart kept (Block.covers_address room) ?_
      simp only [Block.Covers, Block.stop] at same ⊢
      omega
    · intro other kept _ same
      have room := housed.partition.positive other (everywhere (List.mem_of_mem_filter kept))
      refine apart kept (Block.covers_last room) ?_
      simp only [Block.Covers, Block.stop] at same ⊢
      omega
    · intro other kept recorded
      have spaced := tidy.spaced block member other (List.mem_of_mem_filter kept) recorded.symm
      simp only [Block.stop] at spaced ⊢
      omega

/-- After the join with the next free block none begins at the end. -/
theorem joinNext_clear (tidy : Tidy free) (kept : other ∈ (joinNext block free).2)
    (recorded : other.segment = block.segment) :
    (joinNext block free).1.stop ≠ other.address := by
  rw [joinNext] at kept ⊢
  split at kept
  case h_1 next found =>
    obtain ⟨member, adjacent⟩ := blockAt?_some found
    split at kept
    case isTrue sameSegment =>
      have spaced := tidy.spaced next member other (List.mem_of_mem_filter kept)
        ((eq_of_beq sameSegment).trans recorded.symm)
      simp only [sameSegment, if_true, Block.stop] at spaced ⊢
      omega
    case isFalse otherSegment =>
      simp only [otherSegment]
      intro same
      have identical := List.inj_on_of_nodup_map tidy.distinct kept member
        (same.symm.trans adjacent.symm)
      exact otherSegment (beq_iff_eq.mpr (identical ▸ recorded))
  case h_2 missing =>
    intro same
    have found := blockAt?_mem kept tidy.distinct
    rw [← same] at found
    exact absurd (missing.symm.trans found) (by simp)

/-- The join with the next free block only takes blocks away. -/
theorem joinNext_sublist (block : Block) (free : List Block) :
    (joinNext block free).2.Sublist free := by
  rw [joinNext]
  split
  · split
    · exact List.filter_sublist
    · exact .refl _
  · exact .refl _

/-- The join with the previous free block only takes blocks away. -/
theorem joinPrevious_sublist (block : Block) (free : List Block) :
    (joinPrevious block free).2.Sublist free := by
  rw [joinPrevious]
  split
  · split
    · exact List.filter_sublist
    · exact .refl _
  · exact .refl _

@[simp] theorem joinNext_segment (block : Block) (free : List Block) :
    (joinNext block free).1.segment = block.segment := by
  rw [joinNext]
  split
  · split <;> rfl
  · rfl

@[simp] theorem joinPrevious_segment (block : Block) (free : List Block) :
    (joinPrevious block free).1.segment = block.segment := by
  rw [joinPrevious]
  split
  · split <;> rfl
  · rfl

/-- The join with the previous free block leaves the end where it was. -/
theorem joinPrevious_stop (block : Block) (free : List Block) :
    (joinPrevious block free).1.stop = block.stop := by
  rw [joinPrevious]
  split
  case h_1 previous found =>
    split
    case isTrue joinable =>
      simp only [Bool.and_eq_true, beq_iff_eq] at joinable
      simp only [Block.stop]
      omega
    case isFalse => rfl
  case h_2 => rfl

/-- A free block that ends where another block begins is the last one before it. -/
theorem last_before (partition : Partition segments (block :: (free ++ live))) (tidy : Tidy free)
    (member : other ∈ free) (touches : other.stop = block.address) :
    (free.filter fun other => other.address < block.address).getLast? = some other := by
  have everywhere {other : Block} (member : other ∈ free) : other ∈ block :: (free ++ live) :=
    List.mem_cons_of_mem _ (List.mem_append_left live member)
  have before : decide (other.address < block.address) := by
    have positive := partition.positive other (everywhere member)
    simp only [Block.stop] at touches
    exact decide_eq_true (by omega)
  cases found : (free.filter fun other => other.address < block.address).getLast? with
  | none =>
      have candidate : other ∈ free.filter fun other => other.address < block.address :=
        List.mem_filter.mpr ⟨member, before⟩
      rw [List.getLast?_eq_none_iff.mp found] at candidate
      cases candidate
  | some last =>
      have passed := List.mem_filter.mp (List.mem_of_getLast? found)
      have lastMember := everywhere passed.1
      have lastBefore : last.address < block.address := of_decide_eq_true passed.2
      rcases tidy.getLast?_last found member before with same | earlier
      · rw [same]
      · have inOther : other.Covers last.address := by
          simp only [Block.Covers]
          omega
        have same := partition.unique (everywhere member) lastMember inOther
          (Block.covers_address (partition.positive last lastMember))
        rw [same]

/-- After the join with the previous free block none ends at the beginning. -/
theorem joinPrevious_clear (partition : Partition segments (block :: (free ++ live)))
    (tidy : Tidy free) (kept : other ∈ (joinPrevious block free).2)
    (recorded : other.segment = block.segment) :
    other.stop ≠ (joinPrevious block free).1.address := by
  have member := (joinPrevious_sublist block free).subset kept
  rw [joinPrevious] at kept ⊢
  split at kept
  case h_1 previous found =>
    split at kept
    case isTrue joinable =>
      simp only [joinable, if_true]
      have previousMember := List.mem_of_mem_filter (List.mem_of_getLast? found)
      simp only [Bool.and_eq_true, beq_iff_eq] at joinable
      exact tidy.spaced other member previous previousMember (recorded.trans joinable.1.symm)
    case isFalse loose =>
      simp only [loose, Bool.false_eq_true, if_false]
      intro touches
      cases found.symm.trans (last_before partition tidy member touches)
      refine loose ?_
      simp only [Bool.and_eq_true, beq_iff_eq]
      exact ⟨recorded, touches⟩
  case h_2 missing =>
    intro touches
    cases missing.symm.trans (last_before partition tidy member touches)

/-- Making a live block free leaves the free list tidy. -/
theorem retire_tidy (housed : Housed others pool) (tidy : Tidy pool.free)
    (member : block ∈ pool.live) : Tidy (pool.retire block).free := by
  have erased := eraseAt_perm member housed.live_distinct
  have loose := housed.partition.perm ((erased.append_left pool.free).trans List.perm_middle)
  have longer := joinNext_partition loose
  have joined := joinPrevious_partition longer
  have tidyNext := tidy.sublist (joinNext_sublist block pool.free)
  have kept := joinPrevious_sublist (joinNext block pool.free).1 (joinNext block pool.free).2
  have inserted := (tidyNext.sublist kept).insert (joined.positive _ List.mem_cons_self)
  refine inserted ?_ ?_ ?_
  · intro other otherMember same
    exact (List.nodup_cons.mp joined.distinct).1
      (List.mem_map.mpr ⟨other, List.mem_append_left _ otherMember, same⟩)
  · intro other otherMember recorded
    rw [joinPrevious_segment] at recorded
    exact joinPrevious_clear longer tidyNext otherMember recorded
  · intro other otherMember recorded
    rw [joinPrevious_segment, joinNext_segment] at recorded
    rw [joinPrevious_stop]
    exact joinNext_clear tidy (kept.subset otherMember) recorded

/-- A fresh segment leaves the free list tidy. -/
theorem enlarge_tidy (housed : Housed others pool) (tidy : Tidy pool.free) {size : Nat}
    (positive : 0 < size) : Tidy (pool.enlarge size).free := by
  have below : ∀ other ∈ pool.free, other.segment < pool.device.nextAddress ∧
      other.stop ≤ pool.device.nextAddress ∧ 0 < other.size := by
    intro other member
    have everywhere := List.mem_append_left pool.live member
    obtain ⟨segment, segmentMember, recorded, lower, upper⟩ :=
      housed.partition.placed other everywhere
    have room := housed.partition.positive other everywhere
    have behind := housed.device.below segment (housed.mem_ranges segmentMember)
    simp only [Block.stop] at upper ⊢
    omega
  refine tidy.insert positive ?_ ?_ ?_
  · intro other member
    have facts := below other member
    simp only [Block.stop] at facts ⊢
    omega
  all_goals
    intro other member recorded
    exact absurd recorded (Nat.ne_of_lt (below other member).1)

/-- Growth and trimming leave the free list tidy. -/
theorem Restocks.tidy {final : Pool HostMemory} (restocks : Restocks pool final)
    (housed : Housed others pool) (tidy : Tidy pool.free) : Tidy final.free := by
  induction restocks with
  | refl => exact tidy
  | skip size _ ih => exact ih (skip_housed housed size) tidy
  | enlarge positive room ceiling _ ih =>
      exact ih (enlarge_housed housed positive room ceiling) (enlarge_tidy housed tidy positive)
  | drop member idle _ ih => exact ih (dropSegment_housed housed member idle) (tidy.eraseAt _)

/-- A segment without a live block is one gap. -/
theorem whole_isGap (housed : Housed others pool) {segment : Segment}
    (member : segment ∈ pool.segments)
    (unused : ∀ block ∈ pool.live, block.segment ≠ segment.base) :
    segment.whole.IsGap pool.segments pool.live := by
  have inhabited := housed.partition.separate.inhabited segment member
  refine ⟨⟨⟨segment, member, segment.whole_liesIn⟩, inhabited, ?_⟩, ?_⟩
  · intro block blockMember address inWhole inBlock
    obtain ⟨place, placeMember, lies⟩ :=
      housed.partition.placed block (List.mem_append_right pool.free blockMember)
    have inPlace : place.Covers address :=
      ⟨lies.lower.trans inBlock.1, lt_of_lt_of_le inBlock.2 lies.upper⟩
    have same := housed.partition.separate.unique placeMember member inPlace inWhole
    exact unused block blockMember (lies.recorded.trans (congrArg Segment.base same))
  · intro larger room recorded around
    obtain ⟨place, placeMember, lies⟩ := room.placed
    have same : place = segment := List.inj_on_of_nodup_map housed.partition.separate.distinct
      placeMember member (lies.recorded.symm.trans recorded)
    rw [same] at lies
    have beyond := Block.ends_of_covers inhabited around
    exact Block.eq_of_ends (beyond.1.antisymm lies.lower) (lies.upper.antisymm beyond.2) recorded

/-- A segment is idle exactly if no live block is recorded under it. -/
theorem isIdle_iff (housed : Housed others pool) (tidy : Tidy pool.free) {segment : Segment}
    (member : segment ∈ pool.segments) :
    pool.isIdle segment ↔ ∀ block ∈ pool.live, block.segment ≠ segment.base := by
  constructor
  · intro idle block blockMember
    have whole := isIdle_whole housed member idle
    have erased := (eraseAt_perm whole housed.free_distinct).append_right pool.live
    exact (housed.partition.perm erased).whole_alone member (List.mem_append_right _ blockMember)
  · intro unused
    have isFree := (housed.partition.mem_free_iff tidy).mpr (whole_isGap housed member unused)
    have found := blockAt?_mem isFree housed.free_distinct
    rw [isIdle, show segment.base = segment.whole.address from rfl, found]
    exact beq_self_eq_true _

end Pool

end DeviceKernels
