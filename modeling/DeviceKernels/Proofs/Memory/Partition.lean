import DeviceKernels.Proofs.Memory.Blocks
import Mathlib.Tactic

/-
Blocks that tile segments. The order of the blocks does not matter, so a cut, a join, a new
segment and a segment that is given up are each one change at the front of the list.
-/

namespace DeviceKernels

/-- The block is recorded under the segment and lies in its range. -/
structure Block.LiesIn (block : Block) (segment : Segment) : Prop where
  recorded : block.segment = segment.base
  lower : segment.base ≤ block.address
  upper : block.stop ≤ segment.stop

/-- The address belongs to the block. -/
def Block.Covers (block : Block) (address : Nat) : Prop :=
  block.address ≤ address ∧ address < block.stop

/-- No address belongs to both blocks. -/
def Block.Apart (first second : Block) : Prop :=
  ∀ address, first.Covers address → ¬second.Covers address

theorem Block.apart_symm {first second : Block} (apart : first.Apart second) :
    second.Apart first :=
  fun address inSecond inFirst => apart address inFirst inSecond

/-- A block that is not empty covers its own address. -/
theorem Block.covers_address {block : Block} (positive : 0 < block.size) :
    block.Covers block.address :=
  ⟨le_refl _, Nat.lt_add_of_pos_right positive⟩

/-- A segment as one block. -/
def Segment.whole (segment : Segment) : Block := ⟨segment.base, segment.size, segment.base⟩

theorem Segment.whole_liesIn (segment : Segment) : segment.whole.LiesIn segment :=
  ⟨rfl, le_refl _, le_refl _⟩

/-- The address belongs to the segment. -/
def Segment.Covers (segment : Segment) (address : Nat) : Prop :=
  segment.base ≤ address ∧ address < segment.stop

/-- The bytes of some segments together. -/
def segmentBytes (segments : List Segment) : Nat := Number.total (segments.map Segment.size)

@[simp] theorem segmentBytes_append (first second : List Segment) :
    segmentBytes (first ++ second) = segmentBytes first + segmentBytes second := by
  simp [segmentBytes]

/-- The order of the segments does not change their size. -/
theorem segmentBytes_perm {first second : List Segment} (same : first.Perm second) :
    segmentBytes first = segmentBytes second :=
  Number.totalPerm (same.map Segment.size)

@[simp] theorem segmentBytes_concat (segments : List Segment) (segment : Segment) :
    segmentBytes (segments ++ [segment]) = segmentBytes segments + segment.size := by
  simp [segmentBytes]

/-- Segments with room that follow each other in the address space. -/
structure Separate (segments : List Segment) : Prop where
  ordered : segments.Pairwise fun first second => first.stop ≤ second.base
  inhabited : ∀ segment ∈ segments, 0 < segment.size

namespace Separate

variable {segments : List Segment} {first second : Segment}

/-- Separate segments have different bases. -/
theorem distinct (separate : Separate segments) : (segments.map Segment.base).Nodup := by
  rw [List.Nodup, List.pairwise_map]
  refine separate.ordered.imp_of_mem ?_
  intro one other oneMember _ before same
  have positive := separate.inhabited one oneMember
  simp only [Segment.stop] at before
  omega

/-- An address belongs to one segment at most. -/
theorem unique (separate : Separate segments) (firstMember : first ∈ segments)
    (secondMember : second ∈ segments) {address : Nat} (inFirst : first.Covers address)
    (inSecond : second.Covers address) : first = second := by
  by_contra different
  have apart : segments.Pairwise fun one other => ¬(one.Covers address ∧ other.Covers address) := by
    refine separate.ordered.imp ?_
    rintro one other before ⟨⟨-, inOne⟩, inOther, -⟩
    omega
  have symmetric : Std.Symm fun one other : Segment =>
      ¬(one.Covers address ∧ other.Covers address) :=
    ⟨fun _ _ neither both => neither both.symm⟩
  exact apart.forall firstMember secondMember different ⟨inFirst, inSecond⟩

/-- There is one order of separate segments. -/
theorem eq_of_perm {other : List Segment} (separate : Separate segments) (apart : Separate other)
    (same : segments.Perm other) : segments = other := by
  refine same.eq_of_pairwise ?_ separate.ordered apart.ordered
  intro one next member _ before after
  have positive := separate.inhabited one member
  simp only [Segment.stop] at before after
  omega

/-- A segment with room may follow behind all others. -/
theorem append (separate : Separate segments) (positive : 0 < first.size)
    (behind : ∀ other ∈ segments, other.stop ≤ first.base) : Separate (segments ++ [first]) where
  ordered := List.pairwise_append.mpr ⟨separate.ordered, by simp, by simpa using behind⟩
  inhabited other member := by
    rcases List.mem_append.mp member with member | member
    · exact separate.inhabited other member
    · rwa [List.mem_singleton.mp member]

/-- Some of the segments are separate too. -/
theorem filter (separate : Separate segments) (test : Segment → Bool) :
    Separate (segments.filter test) where
  ordered := separate.ordered.filter _
  inhabited other kept := separate.inhabited other (List.mem_of_mem_filter kept)

/-- A segment that is given up takes its bytes away. -/
theorem bytes_drop (separate : Separate segments) (member : first ∈ segments) :
    segmentBytes segments =
      first.size + segmentBytes (segments.filter fun other => other.base != first.base) :=
  Number.totalPerm ((Keyed.filter_perm Segment.base member separate.distinct).map Segment.size)

end Separate

/-- The blocks tile the segments: every block lies in the segment that it is recorded under, no two
blocks overlap, and every address of a segment lies in a block that is recorded under it. -/
structure Partition (segments : List Segment) (blocks : List Block) : Prop where
  separate : Separate segments
  placed : ∀ block ∈ blocks, ∃ segment ∈ segments, block.LiesIn segment
  positive : ∀ block ∈ blocks, 0 < block.size
  apart : blocks.Pairwise Block.Apart
  covered : ∀ segment ∈ segments, ∀ address, segment.Covers address →
    ∃ block ∈ blocks, block.segment = segment.base ∧ block.Covers address
  aligned : ∀ block ∈ blocks, Pool.alignment ∣ block.address
  bytes : blockBytes blocks = segmentBytes segments

namespace Partition

variable {segments : List Segment} {blocks rest : List Block} {block first second : Block}

/-- Nothing tiles nothing. -/
theorem empty : Partition [] [] :=
  ⟨⟨.nil, by simp⟩, by simp, by simp, .nil, by simp, by simp, rfl⟩

/-- The order of the blocks does not matter. -/
theorem perm (partition : Partition segments blocks) (same : blocks.Perm rest) :
    Partition segments rest where
  separate := partition.separate
  placed other member := partition.placed other (same.mem_iff.mpr member)
  positive other member := partition.positive other (same.mem_iff.mpr member)
  apart := (same.pairwise_iff Block.apart_symm).mp partition.apart
  covered segment member address inside := by
    obtain ⟨other, otherMember, facts⟩ := partition.covered segment member address inside
    exact ⟨other, same.mem_iff.mp otherMember, facts⟩
  aligned other member := partition.aligned other (same.mem_iff.mpr member)
  bytes := (blockBytes_perm same).symm.trans partition.bytes

/-- Two blocks at different positions begin at different addresses. -/
theorem distinct (partition : Partition segments blocks) : (blocks.map Block.address).Nodup := by
  rw [List.Nodup, List.pairwise_map]
  refine partition.apart.imp_of_mem ?_
  intro one other oneMember otherMember apart same
  refine apart one.address (Block.covers_address (partition.positive one oneMember)) ?_
  rw [same]
  exact Block.covers_address (partition.positive other otherMember)

/-- A block lies in every segment whose base it is recorded under. -/
theorem liesIn (partition : Partition segments blocks) (member : block ∈ blocks)
    {segment : Segment} (segmentMember : segment ∈ segments)
    (recorded : block.segment = segment.base) : block.LiesIn segment := by
  obtain ⟨place, placeMember, lies⟩ := partition.placed block member
  rwa [List.inj_on_of_nodup_map partition.separate.distinct segmentMember placeMember
    (recorded.symm.trans lies.recorded)]

/-- Blocks give way to others that cover the same addresses of the same segments. -/
theorem replace {old : List Block} (new : List Block) (partition : Partition segments (old ++ rest))
    (placed : ∀ block ∈ new, ∃ segment ∈ segments, block.LiesIn segment)
    (positive : ∀ block ∈ new, 0 < block.size) (apart : new.Pairwise Block.Apart)
    (same : ∀ base address, (∃ block ∈ new, block.segment = base ∧ block.Covers address) ↔
      ∃ block ∈ old, block.segment = base ∧ block.Covers address)
    (aligned : ∀ block ∈ new, Pool.alignment ∣ block.address)
    (bytes : blockBytes new = blockBytes old) : Partition segments (new ++ rest) where
  separate := partition.separate
  placed block member := by
    rcases List.mem_append.mp member with member | member
    · exact placed block member
    · exact partition.placed block (List.mem_append_right old member)
  positive block member := by
    rcases List.mem_append.mp member with member | member
    · exact positive block member
    · exact partition.positive block (List.mem_append_right old member)
  apart := by
    -- An address of a new block lay in an old one, which was apart from the rest.
    obtain ⟨-, apartRest, across⟩ := List.pairwise_append.mp partition.apart
    refine List.pairwise_append.mpr ⟨apart, apartRest, ?_⟩
    intro fresh freshMember kept keptMember address inFresh
    obtain ⟨gone, goneMember, -, inGone⟩ :=
      (same fresh.segment address).mp ⟨fresh, freshMember, rfl, inFresh⟩
    exact across gone goneMember kept keptMember address inGone
  covered segment member address inside := by
    obtain ⟨block, blockMember, facts⟩ := partition.covered segment member address inside
    rcases List.mem_append.mp blockMember with gone | kept
    · obtain ⟨fresh, freshMember, facts⟩ := (same segment.base address).mpr ⟨block, gone, facts⟩
      exact ⟨fresh, List.mem_append_left rest freshMember, facts⟩
    · exact ⟨block, List.mem_append_right new kept, facts⟩
  aligned block member := by
    rcases List.mem_append.mp member with member | member
    · exact aligned block member
    · exact partition.aligned block (List.mem_append_right old member)
  bytes := by
    rw [blockBytes_append, bytes, ← blockBytes_append, partition.bytes]

/-- A block is cut into two. -/
theorem split (partition : Partition segments (block :: rest)) {size : Nat} (some : 0 < size)
    (less : size < block.size) (rounded : Pool.alignment ∣ size) :
    Partition segments (⟨block.address, size, block.segment⟩ ::
      ⟨block.address + size, block.size - size, block.segment⟩ :: rest) := by
  obtain ⟨segment, member, recorded, lower, upper⟩ := partition.placed block (by simp)
  simp only [Block.stop] at upper
  refine replace [_, _] (show Partition segments ([block] ++ rest) from partition) ?_ ?_ ?_ ?_ ?_ ?_
  · simp only [List.mem_cons, List.not_mem_nil, or_false, forall_eq_or_imp, forall_eq]
    refine ⟨⟨segment, member, recorded, lower, ?_⟩, segment, member, recorded, ?_, ?_⟩ <;>
      simp only [Block.stop] <;> omega
  · simp only [List.mem_cons, List.not_mem_nil, or_false, forall_eq_or_imp, forall_eq]
    omega
  · simp only [List.pairwise_cons, List.mem_cons, List.not_mem_nil, or_false, forall_eq,
      Block.Apart, Block.Covers, Block.stop]
    refine ⟨?_, by simp⟩
    intro address
    omega
  · intro base address
    simp only [List.mem_cons, List.not_mem_nil, or_false, exists_eq_or_imp, exists_eq_left,
      Block.Covers, Block.stop]
    omega
  · simp only [List.mem_cons, List.not_mem_nil, or_false, forall_eq_or_imp, forall_eq]
    have start := partition.aligned block (by simp)
    exact ⟨start, Nat.dvd_add start rounded⟩
  · simp only [blockBytes_cons, blockBytes_nil]
    omega

/-- A block and the block of the same segment that begins at its end become one. -/
theorem join (partition : Partition segments (first :: second :: rest))
    (sameSegment : second.segment = first.segment) (adjacent : second.address = first.stop) :
    Partition segments (⟨first.address, first.size + second.size, first.segment⟩ :: rest) := by
  obtain ⟨segment, member, recorded, lower, -⟩ := partition.placed first (by simp)
  have secondLies := partition.liesIn (show second ∈ first :: second :: rest by simp) member
    (sameSegment.trans recorded)
  have secondUpper := secondLies.upper
  have firstPositive := partition.positive first (by simp)
  simp only [Block.stop] at adjacent secondUpper
  refine replace [_] (show Partition segments ([first, second] ++ rest) from partition) ?_ ?_ ?_ ?_ ?_ ?_
  · simp only [List.mem_cons, List.not_mem_nil, or_false, forall_eq]
    refine ⟨segment, member, recorded, lower, ?_⟩
    simp only [Block.stop]
    omega
  · simp only [List.mem_cons, List.not_mem_nil, or_false, forall_eq]
    omega
  · simp
  · intro base address
    simp only [List.mem_cons, List.not_mem_nil, or_false, exists_eq_or_imp, exists_eq_left,
      Block.Covers, Block.stop, sameSegment]
    omega
  · simp only [List.mem_cons, List.not_mem_nil, or_false, forall_eq]
    exact partition.aligned first (by simp)
  · simp only [blockBytes_cons, blockBytes_nil, Nat.add_assoc]

/-- A new segment behind all others comes as one block. -/
theorem addSegment (partition : Partition segments blocks) {segment : Segment}
    (positive : 0 < segment.size) (behind : ∀ other ∈ segments, other.stop ≤ segment.base)
    (aligned : Pool.alignment ∣ segment.base) :
    Partition (segments ++ [segment]) (segment.whole :: blocks) where
  separate := partition.separate.append positive behind
  placed block member := by
    rcases List.mem_cons.mp member with rfl | member
    · exact ⟨segment, by simp, segment.whole_liesIn⟩
    · obtain ⟨place, placeMember, lies⟩ := partition.placed block member
      exact ⟨place, List.mem_append_left _ placeMember, lies⟩
  positive block member := by
    rcases List.mem_cons.mp member with rfl | member
    · exact positive
    · exact partition.positive block member
  apart := by
    refine List.pairwise_cons.mpr ⟨?_, partition.apart⟩
    intro block member address inWhole inBlock
    obtain ⟨place, placeMember, lies⟩ := partition.placed block member
    have last := behind place placeMember
    have upper := lies.upper
    have first : segment.base ≤ address := inWhole.1
    have inside := inBlock.2
    omega
  covered place member address inside := by
    rcases List.mem_append.mp member with member | member
    · obtain ⟨block, blockMember, facts⟩ := partition.covered place member address inside
      exact ⟨block, List.mem_cons_of_mem _ blockMember, facts⟩
    · rw [List.mem_singleton.mp member] at inside ⊢
      exact ⟨segment.whole, by simp, rfl, inside⟩
  aligned block member := by
    rcases List.mem_cons.mp member with rfl | member
    · exact aligned
    · exact partition.aligned block member
  bytes := by
    rw [blockBytes_cons, partition.bytes, segmentBytes_concat, Nat.add_comm]
    rfl

/-- Only the whole segment is recorded under a segment that is one block. -/
theorem whole_alone {segment : Segment} (partition : Partition segments (segment.whole :: blocks))
    (member : segment ∈ segments) (blockMember : block ∈ blocks) :
    block.segment ≠ segment.base := by
  intro recorded
  have lies := partition.liesIn (List.mem_cons_of_mem _ blockMember) member recorded
  have positive := partition.positive block (List.mem_cons_of_mem _ blockMember)
  refine List.rel_of_pairwise_cons partition.apart blockMember block.address ⟨lies.lower, ?_⟩
    (Block.covers_address positive)
  exact lt_of_lt_of_le (Block.covers_address positive).2 lies.upper

/-- A segment that is one block is given up with its block. -/
theorem dropSegment {segment : Segment} (partition : Partition segments (segment.whole :: blocks))
    (member : segment ∈ segments) :
    Partition (segments.filter fun other => other.base != segment.base) blocks where
  separate := partition.separate.filter _
  placed block blockMember := by
    obtain ⟨place, placeMember, lies⟩ :=
      partition.placed block (List.mem_cons_of_mem _ blockMember)
    refine ⟨place, List.mem_filter.mpr ⟨placeMember, ?_⟩, lies⟩
    rw [bne_iff_ne, ← lies.recorded]
    exact partition.whole_alone member blockMember
  positive block blockMember := partition.positive block (List.mem_cons_of_mem _ blockMember)
  apart := partition.apart.tail
  covered place kept address inside := by
    obtain ⟨placeMember, other⟩ := List.mem_filter.mp kept
    obtain ⟨block, blockMember, recorded, covers⟩ :=
      partition.covered place placeMember address inside
    rcases List.mem_cons.mp blockMember with rfl | blockMember
    · exact absurd recorded.symm (bne_iff_ne.mp other)
    · exact ⟨block, blockMember, recorded, covers⟩
  aligned block blockMember := partition.aligned block (List.mem_cons_of_mem _ blockMember)
  bytes := by
    have bytes := partition.bytes
    rw [blockBytes_cons, partition.separate.bytes_drop member] at bytes
    exact Nat.add_left_cancel bytes

end Partition

end DeviceKernels
