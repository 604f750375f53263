import DeviceKernels.Proofs.Memory.SharedDevice

/-
Stale addresses are detected. The memory of a device hands no address out twice, so what a
released segment covered lies outside every segment for good: it can neither be released again nor
be read or written.
-/

namespace DeviceKernels

/-- No address belongs to both segments. -/
def Segment.Apart (first second : Segment) : Prop :=
  ∀ address, first.Covers address → ¬second.Covers address

/-- Segments that follow each other share no address. -/
theorem Separate.apart {segments : List Segment} (separate : Separate segments) :
    segments.Pairwise Segment.Apart := by
  refine separate.ordered.imp ?_
  rintro first second before address ⟨-, inFirst⟩ ⟨inSecond, -⟩
  omega

/-- A call on the memory of a device. Any address may be released, written or read. -/
inductive MemoryCommand where
  | allocate (size : Nat)
  | release (address : Nat)
  | write (address : Nat) (bytes : Bytes)
  | read (address length : Nat)
  deriving DecidableEq, Repr

/-- The memory of a device and all segments that it handed out, the first one first. -/
structure MemoryHistory where
  memory : HostMemory
  granted : List Segment
  deriving DecidableEq, Repr

namespace MemoryHistory

def fresh (capacity index : Nat) : MemoryHistory := ⟨.create capacity index, []⟩

/-- One call, which may be refused. -/
def step (history : MemoryHistory) : MemoryCommand → MemoryHistory
  | .allocate size =>
      match history.memory.allocate size with
      | (.error _, memory) => { history with memory }
      | (.ok segment, memory) => ⟨memory, history.granted ++ [segment]⟩
  | .release address => { history with memory := (history.memory.release address).2 }
  | .write address bytes => { history with memory := history.memory.put address bytes }
  | .read _ _ => history

def run (history : MemoryHistory) (commands : List MemoryCommand) : MemoryHistory :=
  commands.foldl step history

end MemoryHistory

namespace HostMemory

variable {memory : HostMemory} {found : Allocation} {address length : Nat}

/-- What is located encloses the range, if the range has an address. -/
theorem locate_encloses (some : 0 < length) (located : memory.locate address length = .ok found) :
    found ∈ memory.segments ∧ Encloses found address length := by
  rw [locate] at located
  split at located
  case h_1 => cases located
  case h_2 last candidate =>
    split at located
    case isTrue => cases located
    case isFalse enough =>
      obtain rfl := Except.ok.inj located
      obtain ⟨member, lower⟩ := List.mem_filter.mp (List.mem_of_getLast? candidate)
      have lower : last.base ≤ address := of_decide_eq_true lower
      refine ⟨member, ⟨lower, ?_⟩, ?_⟩
      all_goals
        simp only [Allocation.segment, Segment.stop]
        omega

/-- A range is refused under its own address and length. -/
theorem locate_cases (memory : HostMemory) (address length : Nat) :
    (∃ found, memory.locate address length = .ok found) ∨
      memory.locate address length = .error (.outOfBounds address length) := by
  rw [locate]
  split
  · exact .inr rfl
  split
  · exact .inr rfl
  · exact .inl ⟨_, rfl⟩

/-- The whole range lies in one live segment. -/
def Contains (memory : HostMemory) (address length : Nat) : Prop :=
  ∃ segment ∈ memory.ranges, segment.base ≤ address ∧ address + length ≤ segment.stop

/-- A range with an address is located exactly if it lies in one segment. -/
theorem locate_ok_iff (wellFormed : memory.WellFormed) (some : 0 < length) :
    (∃ found, memory.locate address length = .ok found) ↔ memory.Contains address length := by
  constructor
  · rintro ⟨found, located⟩
    obtain ⟨member, encloses⟩ := locate_encloses some located
    exact ⟨found.segment, mem_ranges member, encloses.covers.1, encloses.upper⟩
  · rintro ⟨segment, member, lower, upper⟩
    obtain ⟨allocation, allocationMember, rfl⟩ := List.mem_map.mp member
    have inside : address < allocation.segment.stop := by omega
    exact ⟨allocation, locate_inside wellFormed allocationMember ⟨⟨lower, inside⟩, upper⟩⟩

theorem write_ok_iff (wellFormed : memory.WellFormed) {bytes : Bytes} (some : bytes ≠ []) :
    (∃ written, memory.write address bytes = .ok written) ↔
      memory.Contains address bytes.length := by
  rw [← locate_ok_iff wellFormed (List.length_pos_iff.mpr some), write]
  cases memory.locate address bytes.length <;> simp [bind, Except.bind]

theorem read_ok_iff (wellFormed : memory.WellFormed) (some : 0 < length) :
    (∃ bytes, memory.read address length = .ok bytes) ↔ memory.Contains address length := by
  rw [← locate_ok_iff wellFormed some, read]
  cases memory.locate address length <;> simp [bind, Except.bind]

/-- Only the base of a live segment can be released. -/
theorem release_ok_iff (wellFormed : memory.WellFormed) :
    (memory.release address).1 = .ok () ↔ address ∈ memory.ranges.map Segment.base := by
  have bases : memory.ranges.map Segment.base = memory.segments.map Allocation.base := by
    simp [ranges, Function.comp_def, Allocation.segment]
  rw [bases]
  constructor
  · intro released
    rw [release] at released
    split at released
    case h_1 found there =>
      obtain ⟨member, rfl⟩ := Keyed.find?_some Allocation.base there
      exact List.mem_map_of_mem member
    case h_2 => cases released
  · intro live
    obtain ⟨allocation, member, rfl⟩ := List.mem_map.mp live
    rw [release_base wellFormed member]

/-- The address was passed, and no live segment covers it. -/
structure Retired (memory : HostMemory) (address : Nat) : Prop where
  passed : address < memory.nextAddress
  vacant : ∀ segment ∈ memory.ranges, ¬segment.Covers address

/-- A retired address cannot be released. -/
theorem Retired.release (retired : memory.Retired address) (wellFormed : memory.WellFormed) :
    memory.release address = (.error (.doubleFree address), memory) := by
  rw [HostMemory.release]
  split
  case h_1 found there =>
    obtain ⟨member, rfl⟩ := Keyed.find?_some Allocation.base there
    have positive := wellFormed.separate.inhabited _ (mem_ranges member)
    exact absurd ⟨le_refl _, Nat.lt_add_of_pos_right positive⟩
      (retired.vacant _ (mem_ranges member))
  case h_2 => rfl

/-- No range that begins at a retired address is located. -/
theorem Retired.locate (retired : memory.Retired address) (some : 0 < length) :
    memory.locate address length = .error (.outOfBounds address length) := by
  rcases memory.locate_cases address length with ⟨found, located⟩ | refused
  · obtain ⟨member, encloses⟩ := locate_encloses some located
    exact absurd encloses.covers (retired.vacant _ (mem_ranges member))
  · exact refused

theorem Retired.read (retired : memory.Retired address) (some : 0 < length) :
    memory.read address length = .error (.outOfBounds address length) := by
  rw [HostMemory.read, retired.locate some]
  rfl

theorem Retired.write (retired : memory.Retired address) {bytes : Bytes} (some : bytes ≠ []) :
    memory.write address bytes = .error (.outOfBounds address bytes.length) := by
  rw [HostMemory.write, retired.locate (List.length_pos_iff.mpr some)]
  rfl

/-- What a released segment covered is retired. -/
theorem remove_retired (wellFormed : memory.WellFormed) (member : found ∈ memory.segments)
    (covers : found.segment.Covers address) : (memory.remove found).Retired address where
  passed := covers.2.trans_le (wellFormed.below _ (mem_ranges member))
  vacant segment kept inside := by
    rw [ranges_remove] at kept
    obtain ⟨other, different⟩ := List.mem_filter.mp kept
    rw [wellFormed.separate.unique other (mem_ranges member) inside covers] at different
    exact bne_iff_ne.mp different rfl

end HostMemory

namespace MemoryHistory

variable {capacity : Nat} {history after : MemoryHistory} {address : Nat}

/-- All that one call can do. -/
inductive Advances (history : MemoryHistory) : MemoryHistory → Prop
  | idle : Advances history history
  | skip (size : Nat) : Advances history { history with memory := history.memory.skip size }
  | extend {size : Nat} (positive : 0 < size)
      (room : history.memory.allocatedBytes + size ≤ history.memory.capacity) :
      Advances history
        ⟨history.memory.extend size, history.granted ++ [⟨history.memory.nextAddress, size⟩]⟩
  | remove {found : Allocation} (member : found ∈ history.memory.segments) :
      Advances history { history with memory := history.memory.remove found }
  | patch (base offset : Nat) (bytes : Bytes) :
      Advances history { history with memory := history.memory.patch base offset bytes }

/-- A call does one of these things. -/
theorem step_advances (history : MemoryHistory) (command : MemoryCommand) :
    history.Advances (history.step command) := by
  cases command with
  | allocate size =>
      rw [step]
      rcases history.memory.allocate_cases size with
        ⟨error, skipped, refused⟩ | ⟨granted, positive, room⟩
      · rw [refused]
        exact .skip skipped
      · rw [granted]
        exact .extend positive room
  | release address =>
      rw [step, HostMemory.release]
      split
      case h_1 found there => exact .remove (List.mem_of_find?_eq_some there)
      case h_2 => exact .idle
  | write address bytes =>
      rw [step, HostMemory.put]
      rcases history.memory.write_cases address bytes with ⟨error, refused⟩ | ⟨base, offset, done⟩
      · rw [refused]
        exact .idle
      · rw [done]
        exact .patch base offset bytes
  | read address length => exact .idle

/-- What every call keeps: the segments that were handed out follow each other up to the next
address, and the live ones are among them. -/
structure Traced (capacity : Nat) (history : MemoryHistory) : Prop where
  wellFormed : history.memory.WellFormed
  capacity : history.memory.capacity = capacity
  separate : Separate history.granted
  aligned : ∀ segment ∈ history.granted, HostMemory.alignment ∣ segment.base
  begun : HostMemory.baseAddress ≤ history.memory.nextAddress
  placed : ∀ segment ∈ history.granted,
    HostMemory.baseAddress ≤ segment.base ∧ segment.stop ≤ history.memory.nextAddress
  live : history.memory.ranges.Sublist history.granted

theorem fresh_traced (capacity index : Nat) : (fresh capacity index).Traced capacity where
  wellFormed := HostMemory.create_wellFormed capacity index
  capacity := rfl
  separate := ⟨.nil, by simp [fresh]⟩
  aligned := by simp [fresh]
  begun := le_refl _
  placed := by simp [fresh]
  live := .slnil

/-- A new segment begins where all earlier ones have ended. -/
theorem Traced.extend (traced : history.Traced capacity) {size : Nat} (positive : 0 < size)
    (room : history.memory.allocatedBytes + size ≤ history.memory.capacity) :
    Traced capacity
      ⟨history.memory.extend size, history.granted ++ [⟨history.memory.nextAddress, size⟩]⟩ where
  wellFormed := traced.wellFormed.extend positive room
  capacity := traced.capacity
  separate := traced.separate.append positive fun other member => (traced.placed other member).2
  aligned segment member := by
    rcases List.mem_append.mp member with member | member
    · exact traced.aligned segment member
    · rw [List.mem_singleton.mp member]
      exact traced.wellFormed.nextAligned
  begun := traced.begun.trans (Nat.le_add_right _ _)
  placed segment member := by
    have span := Number.leRoundUp (show 0 < HostMemory.alignment by decide) size
    rcases List.mem_append.mp member with member | member
    · obtain ⟨lower, upper⟩ := traced.placed segment member
      exact ⟨lower, upper.trans (Nat.le_add_right _ _)⟩
    · rw [List.mem_singleton.mp member]
      exact ⟨traced.begun, Nat.add_le_add_left span _⟩
  live := by
    rw [HostMemory.ranges_extend]
    exact traced.live.append (.refl _)

/-- Every call keeps what is traced. -/
theorem Traced.advance (traced : history.Traced capacity) (advances : history.Advances after) :
    after.Traced capacity := by
  cases advances with
  | idle => exact traced
  | skip size =>
      exact ⟨traced.wellFormed.skip size, traced.capacity, traced.separate, traced.aligned,
        traced.begun.trans (Nat.le_add_right _ _), fun segment member =>
          ⟨(traced.placed segment member).1,
            (traced.placed segment member).2.trans (Nat.le_add_right _ _)⟩, traced.live⟩
  | extend positive room => exact traced.extend positive room
  | remove member =>
      have gone := HostMemory.ranges_remove history.memory
      refine ⟨traced.wellFormed.remove member, traced.capacity, traced.separate, traced.aligned,
        traced.begun, traced.placed, ?_⟩
      rw [gone]
      exact List.filter_sublist.trans traced.live
  | patch base offset bytes =>
      refine ⟨traced.wellFormed.patch base offset bytes, traced.capacity, traced.separate,
        traced.aligned, traced.begun, traced.placed, ?_⟩
      rw [HostMemory.ranges_patch]
      exact traced.live

/-- A retired address stays retired. -/
theorem retired_advance (retired : history.memory.Retired address)
    (advances : history.Advances after) : after.memory.Retired address := by
  obtain ⟨passed, vacant⟩ := retired
  cases advances with
  | idle => exact ⟨passed, vacant⟩
  | skip size => exact ⟨passed.trans_le (Nat.le_add_right _ _), vacant⟩
  | extend =>
      refine ⟨passed.trans_le (Nat.le_add_right _ _), ?_⟩
      intro segment member
      rw [HostMemory.ranges_extend] at member
      rcases List.mem_append.mp member with member | member
      · exact vacant segment member
      · rw [List.mem_singleton.mp member]
        exact fun covers => absurd covers.1 (Nat.not_le.mpr passed)
  | remove =>
      refine ⟨passed, ?_⟩
      intro segment member
      rw [HostMemory.ranges_remove] at member
      exact vacant segment (List.mem_of_mem_filter member)
  | patch base offset bytes =>
      refine ⟨passed, ?_⟩
      rw [HostMemory.ranges_patch]
      exact vacant

/-- Any calls keep what every call keeps. -/
theorem run_keeps {motive : MemoryHistory → Prop}
    (keeps : ∀ history after, Advances history after → motive history → motive after)
    (commands : List MemoryCommand) (start : motive history) : motive (history.run commands) := by
  induction commands generalizing history with
  | nil => exact start
  | cons command rest ih => exact ih (keeps _ _ (history.step_advances command) start)

theorem Traced.run (traced : history.Traced capacity) (commands : List MemoryCommand) :
    (history.run commands).Traced capacity :=
  run_keeps (fun _ _ advances traced => traced.advance advances) commands traced

/-- What a released segment covered stays retired, whatever is called later. -/
theorem Traced.run_retired (traced : history.Traced capacity) {segment : Segment}
    (member : segment ∈ history.memory.ranges) (covers : segment.Covers address)
    (later : List MemoryCommand) :
    (history.run (.release segment.base :: later)).memory.Retired address := by
  obtain ⟨allocation, allocationMember, rfl⟩ := List.mem_map.mp member
  have released : history.step (.release allocation.segment.base) =
      { history with memory := history.memory.remove allocation } :=
    congrArg (fun outcome => MemoryHistory.mk outcome.2 history.granted)
      (HostMemory.release_base traced.wellFormed allocationMember)
  have retired := HostMemory.remove_retired traced.wellFormed allocationMember covers
  rw [MemoryHistory.run, List.foldl_cons, released]
  exact run_keeps (motive := fun after => after.memory.Retired address)
    (fun _ _ advances retired => retired_advance retired advances) later retired

/-- Live segments are kept apart, accounted for and guarded, and none of their addresses comes back
once it was released. -/
structure Guarded (capacity : Nat) (history : MemoryHistory) : Prop where
  /-- No address was handed out twice. -/
  apart : history.granted.Pairwise Segment.Apart
  aligned : ∀ segment ∈ history.granted, 256 ∣ segment.base
  /-- All addresses are words as long as the next one is. -/
  placed : ∀ segment ∈ history.granted,
    HostMemory.baseAddress ≤ segment.base ∧ segment.stop ≤ history.memory.nextAddress
  live : history.memory.ranges.Sublist history.granted
  counted : DeviceAllocator.allocatedBytes history.memory = segmentBytes history.memory.ranges
  fits : DeviceAllocator.allocatedBytes history.memory ≤ capacity
  /-- An access of at least one byte succeeds exactly if its range lies in one live segment. -/
  writes : ∀ address bytes, bytes ≠ [] →
    ((∃ written, history.memory.write address bytes = .ok written) ↔
      history.memory.Contains address bytes.length)
  reads : ∀ address length, 0 < length →
    ((∃ bytes, history.memory.read address length = .ok bytes) ↔
      history.memory.Contains address length)
  /-- Only the base of a live segment can be released. -/
  releases : ∀ address, (history.memory.release address).1 = .ok () ↔
    address ∈ history.memory.ranges.map Segment.base
  /-- A second release is refused at any later moment and changes nothing. -/
  releasedOnce : ∀ address, (history.memory.release address).1 = .ok () → ∀ later,
    (history.run (.release address :: later)).memory.release address =
      (.error (.doubleFree address), (history.run (.release address :: later)).memory)
  /-- Accesses to what a released segment covered are refused at any later moment. -/
  stale : ∀ segment ∈ history.memory.ranges, ∀ address, segment.Covers address → ∀ later,
    (∀ bytes, bytes ≠ [] →
      (history.run (.release segment.base :: later)).memory.write address bytes =
        .error (.outOfBounds address bytes.length)) ∧
    ∀ length, 0 < length →
      (history.run (.release segment.base :: later)).memory.read address length =
        .error (.outOfBounds address length)

/-- After any calls on a fresh memory the live segments are guarded. -/
theorem run_guarded (capacity index : Nat) (commands : List MemoryCommand) :
    ((fresh capacity index).run commands).Guarded capacity := by
  have traced := (fresh_traced capacity index).run commands
  generalize (fresh capacity index).run commands = history at traced
  constructor
  case apart => exact traced.separate.apart
  case aligned => exact traced.aligned
  case placed => exact traced.placed
  case live => exact traced.live
  case counted => exact traced.wellFormed.counted
  case fits => exact traced.wellFormed.fits.trans_eq traced.capacity
  case writes => exact fun _ _ some => HostMemory.write_ok_iff traced.wellFormed some
  case reads => exact fun _ _ some => HostMemory.read_ok_iff traced.wellFormed some
  case releases => exact fun _ => HostMemory.release_ok_iff traced.wellFormed
  case releasedOnce =>
    intro address released later
    obtain ⟨segment, member, rfl⟩ :=
      List.mem_map.mp ((HostMemory.release_ok_iff traced.wellFormed).mp released)
    have positive := traced.wellFormed.separate.inhabited segment member
    have retired := traced.run_retired member ⟨le_refl _, Nat.lt_add_of_pos_right positive⟩ later
    exact retired.release (traced.run _).wellFormed
  case stale =>
    intro segment member address covers later
    have retired := traced.run_retired member covers later
    exact ⟨fun _ some => retired.write some, fun _ some => retired.read some⟩

set_option maxRecDepth 4000 in
/-- A segment of 300 bytes is released, and another one of that size is handed out. -/
theorem run_guarded_reused :
    ((fresh 4096 0).run [.allocate 300, .allocate 10]).memory.ranges =
        [⟨0x100000000, 300⟩, ⟨0x100000200, 10⟩] ∧
      ((fresh 4096 0).run [.allocate 300, .allocate 10, .release 0x100000000,
        .allocate 300]).memory.ranges = [⟨0x100000200, 10⟩, ⟨0x100000300, 300⟩] ∧
      (((fresh 4096 0).run [.allocate 300, .allocate 10, .release 0x100000000,
        .allocate 300]).memory.release 0x100000000).1 = .error (.doubleFree 0x100000000) ∧
      ((fresh 4096 0).run [.allocate 300, .allocate 10, .release 0x100000000,
        .allocate 300]).memory.read 0x10000012b 1 = .error (.outOfBounds 0x10000012b 1) := by
  have guarded := run_guarded 4096 0 [.allocate 300, .allocate 10]
  refine ⟨rfl, rfl, ?_, ?_⟩
  · exact congrArg Prod.fst (guarded.releasedOnce 0x100000000 rfl [.allocate 300])
  · have member : (⟨0x100000000, 300⟩ : Segment) ∈
        ((fresh 4096 0).run [.allocate 300, .allocate 10]).memory.ranges := .head _
    exact (guarded.stale _ member 0x10000012b ⟨by decide, by decide⟩ [.allocate 300]).2 1
      Nat.one_pos

end MemoryHistory

end DeviceKernels
