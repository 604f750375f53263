import DeviceKernels.Artifact.KeyLocks
import DeviceKernels.Proofs.Exchange
import DeviceKernels.Proofs.Keyed

/-
Whatever the requests do in whatever order, the references of a lock are those of the table and of
its requests, at most one request has taken it, and every lock in the table has a request that is
still going to give it up.
-/

namespace DeviceKernels

/-- What a request has of a lock. -/
inductive Grip where
  | free
  | reference (address : Nat)
  /-- A reference to the lock, which the request has taken. -/
  | guard (address : Nat)
  /-- The address of a lock that may have been freed. -/
  | stale (address : Nat)
  deriving DecidableEq

namespace Grip

def refersTo (address : Nat) : Grip → Bool
  | reference held => held == address
  | guard held => held == address
  | _ => false

def guards (address : Nat) : Grip → Bool
  | guard held => held == address
  | _ => false

def knows (address : Nat) : Grip → Bool
  | free => false
  | reference held => held == address
  | guard held => held == address
  | stale held => held == address

end Grip

/-- What a request has of the lock of its key. -/
structure Hold where
  key : ArtifactKey
  grip : Grip
  deriving DecidableEq

namespace KeyLocks

variable {locks : KeyLocks} {holds : List Hold} {index : Nat} {key : ArtifactKey} {address : Nat}

theorem change_same {lock : KeyLock} (lives : locks.heap address = some lock)
    (next : KeyLock → Option KeyLock) : (locks.change address next).heap address = next lock := by
  simp [change, lives]

theorem change_other {other : Nat} (elsewhere : other ≠ address)
    (next : KeyLock → Option KeyLock) :
    (locks.change address next).heap other = locks.heap other := by
  simp [change, elsewhere]

/-- The number of requests whose grip passes a test, after one grip has changed. -/
theorem countP_grip {before : Grip} (here : holds[index]? = some ⟨key, before⟩) (after : Grip)
    (test : Grip → Bool) :
    (holds.set index ⟨key, after⟩).countP (fun hold => test hold.grip) + (test before).toNat =
      holds.countP (fun hold => test hold.grip) + (test after).toNat :=
  Exchange.countP_set here ⟨key, after⟩ fun hold => test hold.grip

/-- The locks are those of the requests under way. -/
structure Sound (locks : KeyLocks) (holds : List Hold) : Prop where
  keys : (locks.table.map Prod.fst).Nodup
  addresses : (locks.table.map Prod.snd).Nodup
  listed : ∀ hold ∈ holds, ∀ address, hold.grip.refersTo address → (hold.key, address) ∈ locks.table
  counted : ∀ entry ∈ locks.table, ∃ lock, locks.heap entry.2 = some lock ∧
    lock.references = holds.countP (fun hold => hold.grip.refersTo entry.2) + 1 ∧
    lock.taken.toNat = holds.countP (fun hold => hold.grip.guards entry.2)
  expected : ∀ entry ∈ locks.table, ∃ hold ∈ holds,
    hold.key = entry.1 ∧ hold.grip.knows entry.2

/-- The lock of a key that is in the table is found. -/
theorem Sound.lookup (sound : locks.Sound holds) :
    locks.table.lookup key = some address ↔ (key, address) ∈ locks.table := by
  constructor
  · intro found
    obtain ⟨front, back, split, -⟩ := List.lookup_eq_some_iff.mp found
    rw [split]
    simp
  · intro member
    cases found : locks.table.lookup key with
    | none => simpa using List.lookup_eq_none_iff.mp found _ member
    | some other =>
        obtain ⟨front, back, split, -⟩ := List.lookup_eq_some_iff.mp found
        have otherMember : (key, other) ∈ locks.table := by
          rw [split]
          simp
        cases List.inj_on_of_nodup_map sound.keys otherMember member rfl
        rfl

/-- Two entries of the table have different locks. -/
theorem Sound.sameKey (sound : locks.Sound holds) {first second : ArtifactKey}
    (one : (first, address) ∈ locks.table) (two : (second, address) ∈ locks.table) :
    first = second :=
  congrArg Prod.fst (List.inj_on_of_nodup_map sound.addresses one two rfl)

theorem Sound.empty : KeyLocks.empty.Sound [] :=
  ⟨.nil, .nil, by simp, by simp [KeyLocks.empty], by simp [KeyLocks.empty]⟩

/-- At most one request has taken the lock of a key. -/
theorem Sound.exclusive (sound : locks.Sound holds) {first second : Nat} {one two : Nat}
    (firstHolds : holds[first]? = some ⟨key, .guard one⟩)
    (secondHolds : holds[second]? = some ⟨key, .guard two⟩) : first = second := by
  have listed := sound.listed _ (List.mem_of_getElem? firstHolds) one (beq_self_eq_true one)
  have alsoListed := sound.listed _ (List.mem_of_getElem? secondHolds) two (beq_self_eq_true two)
  cases congrArg Prod.snd (List.inj_on_of_nodup_map sound.keys listed alsoListed rfl)
  obtain ⟨lock, -, -, guards⟩ := sound.counted _ listed
  have atMostOne := Bool.toNat_le lock.taken
  let test (hold : Hold) : Bool := hold.grip.guards one
  have passed : test ⟨key, .guard one⟩ = true := beq_self_eq_true one
  have count : lock.taken.toNat = holds.countP test := guards
  rcases Nat.lt_trichotomy first second with before | same | after
  · have twice := Exchange.two_le_countP test before firstHolds secondHolds passed passed
    omega
  · exact same
  · have twice := Exchange.two_le_countP test after secondHolds firstHolds passed passed
    omega

/-- A request changes what it has of the lock of its key, and the lock counts it. -/
theorem Sound.exchange (sound : locks.Sound holds) {before after : Grip}
    (here : holds[index]? = some ⟨key, before⟩) (listed : (key, address) ∈ locks.table)
    {lock next : KeyLock} (lives : locks.heap address = some lock)
    {change : KeyLock → Option KeyLock} (changed : change lock = some next)
    (references : next.references + (before.refersTo address).toNat =
      lock.references + (after.refersTo address).toNat)
    (taken : next.taken.toNat + (before.guards address).toNat =
      lock.taken.toNat + (after.guards address).toNat)
    (elsewhere : ∀ other, other ≠ address →
      after.refersTo other = before.refersTo other ∧ after.guards other = before.guards other)
    (knows : ∀ other, before.knows other → after.knows other) :
    (locks.change address change).Sound (holds.set index ⟨key, after⟩) := by
  refine ⟨sound.keys, sound.addresses, ?_, ?_, ?_⟩
  · intro hold member other refers
    rcases List.mem_or_eq_of_mem_set member with old | rfl
    · exact sound.listed hold old other refers
    · by_cases same : other = address
      · rw [same]
        exact listed
      · rw [(elsewhere other same).1] at refers
        exact sound.listed _ (List.mem_of_getElem? here) other refers
  · rintro ⟨owner, place⟩ member
    obtain ⟨found, there, countRefers, countGuards⟩ := sound.counted _ member
    have refers := countP_grip here after (Grip.refersTo place)
    have guards := countP_grip here after (Grip.guards place)
    dsimp only at there countRefers countGuards ⊢
    by_cases same : place = address
    · subst same
      cases there.symm.trans lives
      refine ⟨next, (change_same lives change).trans changed, ?_, ?_⟩ <;> omega
    · obtain ⟨sameRefers, sameGuards⟩ := elsewhere place same
      rw [sameRefers] at refers
      rw [sameGuards] at guards
      refine ⟨found, (change_other same change).trans there, ?_, ?_⟩ <;> omega
  · intro entry member
    obtain ⟨hold, present, sameKey, known⟩ := sound.expected entry member
    by_cases same : hold = ⟨key, before⟩
    · rw [same] at sameKey known
      exact ⟨_, Exchange.mem_set_next here _, sameKey, knows entry.2 known⟩
    · exact ⟨hold, Exchange.mem_set_other here _ present same, sameKey, known⟩

/-- A request that holds nothing of a lock joins the others. -/
theorem Sound.arrive (sound : locks.Sound holds) (key : ArtifactKey) :
    locks.Sound (holds ++ [⟨key, .free⟩]) := by
  refine ⟨sound.keys, sound.addresses, ?_, ?_, ?_⟩
  · intro hold member address refers
    rcases List.mem_append.mp member with old | new
    · exact sound.listed hold old address refers
    · rw [List.mem_singleton.mp new] at refers
      cases refers
  · intro entry member
    obtain ⟨lock, lives, references, taken⟩ := sound.counted entry member
    refine ⟨lock, lives, ?_, ?_⟩
    · simpa [Grip.refersTo] using references
    · simpa [Grip.guards] using taken
  · intro entry member
    obtain ⟨hold, present, facts⟩ := sound.expected entry member
    exact ⟨hold, List.mem_append_left _ present, facts⟩

theorem Sound.acquire (sound : locks.Sound holds)
    (here : holds[index]? = some ⟨key, .reference address⟩) {after : KeyLocks}
    (acquired : locks.acquire? address = some after) :
    after.Sound (holds.set index ⟨key, .guard address⟩) := by
  have listed := sound.listed _ (List.mem_of_getElem? here) address (beq_self_eq_true address)
  rw [acquire?] at acquired
  split at acquired
  case h_2 => cases acquired
  case h_1 references lives =>
    cases acquired
    refine sound.exchange here listed lives rfl rfl ?_ ?_ ?_
    · simp [Grip.guards]
    · intro other elsewhere
      simp [Grip.refersTo, Grip.guards, Ne.symm elsewhere]
    · exact fun other known => known

theorem Sound.release (sound : locks.Sound holds)
    (here : holds[index]? = some ⟨key, .guard address⟩) :
    (locks.release address).Sound (holds.set index ⟨key, .reference address⟩) := by
  have listed := sound.listed _ (List.mem_of_getElem? here) address (beq_self_eq_true address)
  obtain ⟨lock, lives, -, taken⟩ := sound.counted _ listed
  have one : 0 < holds.countP fun hold => hold.grip.guards address :=
    List.countP_pos_iff.mpr ⟨_, List.mem_of_getElem? here, beq_self_eq_true address⟩
  have held : lock.taken.toNat = 1 := by
    have atMostOne := Bool.toNat_le lock.taken
    dsimp only at taken
    omega
  refine sound.exchange here listed lives rfl rfl ?_ ?_ ?_
  · simp [Grip.guards, held]
  · intro other elsewhere
    simp [Grip.refersTo, Grip.guards, Ne.symm elsewhere]
  · exact fun other known => known

theorem Sound.drop (sound : locks.Sound holds)
    (here : holds[index]? = some ⟨key, .reference address⟩) :
    (locks.drop address).Sound (holds.set index ⟨key, .stale address⟩) := by
  have listed := sound.listed _ (List.mem_of_getElem? here) address (beq_self_eq_true address)
  obtain ⟨lock, lives, references, -⟩ := sound.counted _ listed
  have one : 0 < holds.countP fun hold => hold.grip.refersTo address :=
    List.countP_pos_iff.mpr ⟨_, List.mem_of_getElem? here, beq_self_eq_true address⟩
  have many : ¬lock.references ≤ 1 := by
    dsimp only at references
    omega
  refine sound.exchange here listed lives (if_neg many) ?_ ?_ ?_ ?_
  · simp only [Grip.refersTo, beq_self_eq_true, Bool.toNat_true, Bool.toNat_false]
    omega
  · rfl
  · intro other elsewhere
    simp [Grip.refersTo, Grip.guards, Ne.symm elsewhere]
  · exact fun other known => known

/-- A live lock that no entry has is referred to by no request. -/
theorem Sound.unused (sound : locks.Sound holds) (unused : locks.heap address = none) :
    holds.countP (fun hold => hold.grip.refersTo address) = 0 ∧
      address ∉ locks.table.map Prod.snd := by
  have absent : address ∉ locks.table.map Prod.snd := by
    intro member
    obtain ⟨entry, present, rfl⟩ := List.mem_map.mp member
    obtain ⟨lock, lives, -⟩ := sound.counted entry present
    rw [unused] at lives
    cases lives
  refine ⟨List.countP_eq_zero.mpr fun hold member refers => ?_, absent⟩
  exact absent (List.mem_map_of_mem (sound.listed hold member address refers))

/-- A request that takes the lock guards it, so no more requests guard a lock than refer to it. -/
theorem guards_le (holds : List Hold) (address : Nat) :
    holds.countP (fun hold => hold.grip.guards address) ≤
      holds.countP fun hold => hold.grip.refersTo address := by
  refine List.countP_mono_left fun hold _ guards => ?_
  cases grip : hold.grip <;> simp_all [Grip.guards, Grip.refersTo]

theorem Sound.make (sound : locks.Sound holds) (here : holds[index]? = some ⟨key, .free⟩)
    (fresh : key ∉ locks.table.map Prod.fst) (unused : locks.heap address = none) :
    (locks.make key address).Sound (holds.set index ⟨key, .reference address⟩) := by
  obtain ⟨nobody, absent⟩ := sound.unused unused
  refine ⟨?_, ?_, ?_, ?_, ?_⟩
  · rw [KeyLocks.make, List.map_append, List.map_singleton, ← List.concat_eq_append]
    exact sound.keys.concat fresh
  · rw [KeyLocks.make, List.map_append, List.map_singleton, ← List.concat_eq_append]
    exact sound.addresses.concat absent
  · intro hold member other refers
    rcases List.mem_or_eq_of_mem_set member with old | rfl
    · exact List.mem_append_left _ (sound.listed hold old other refers)
    · rw [← beq_iff_eq.mp refers]
      exact List.mem_append_right _ (List.mem_singleton_self _)
  · rintro ⟨owner, place⟩ member
    have refers : _ + 0 = _ + (address == place).toNat :=
      countP_grip here (.reference address) (Grip.refersTo place)
    have guards : _ + 0 = _ + 0 := countP_grip here (.reference address) (Grip.guards place)
    rcases List.mem_append.mp member with old | new
    · have apart : address ≠ place := by
        rintro rfl
        exact absent (List.mem_map_of_mem old)
      obtain ⟨lock, lives, references, taken⟩ := sound.counted _ old
      rw [beq_false_of_ne apart, Bool.toNat_false] at refers
      refine ⟨lock, (if_neg apart.symm).trans lives, ?_, ?_⟩
      · exact references.trans (congrArg (· + 1) refers.symm)
      · exact taken.trans guards.symm
    · cases List.mem_singleton.mp new
      have atMost := guards_le holds address
      rw [beq_self_eq_true, Bool.toNat_true] at refers
      refine ⟨⟨2, false⟩, if_pos rfl, ?_, ?_⟩ <;> dsimp only [Bool.toNat_false] <;> omega
  · intro entry member
    rcases List.mem_append.mp member with old | new
    · obtain ⟨hold, present, sameKey, known⟩ := sound.expected entry old
      have other : hold ≠ ⟨key, .free⟩ := by
        rintro rfl
        cases known
      exact ⟨hold, Exchange.mem_set_other here _ present other, sameKey, known⟩
    · rw [List.mem_singleton.mp new]
      exact ⟨_, Exchange.mem_set_next here _, rfl, beq_self_eq_true address⟩

theorem Sound.claim (sound : locks.Sound holds) (here : holds[index]? = some ⟨key, .free⟩)
    {free : Nat} (unused : locks.heap free = none) {after : KeyLocks}
    (claimed : locks.claim key free = (address, after)) :
    after.Sound (holds.set index ⟨key, .reference address⟩) := by
  rw [KeyLocks.claim] at claimed
  cases found : locks.table.lookup key with
  | none =>
      rw [found] at claimed
      cases claimed
      refine sound.make here ?_ unused
      intro member
      obtain ⟨entry, present, rfl⟩ := List.mem_map.mp member
      rw [sound.lookup.mpr present] at found
      cases found
  | some current =>
      rw [found] at claimed
      cases claimed
      have listed := sound.lookup.mp found
      obtain ⟨lock, lives, -⟩ := sound.counted _ listed
      refine sound.exchange here listed lives rfl ?_ rfl ?_ ?_
      · simp [Grip.refersTo]
      · intro other elsewhere
        simp [Grip.refersTo, Grip.guards, Ne.symm elsewhere]
      · exact fun other known => by cases known

/-- A request forgets an address that is not in the table, or that another request refers to. -/
theorem Sound.forget (sound : locks.Sound holds)
    (here : holds[index]? = some ⟨key, .stale address⟩)
    (kept : (key, address) ∈ locks.table →
      ∃ hold ∈ holds, hold.key = key ∧ hold.grip.refersTo address) :
    locks.Sound (holds.set index ⟨key, .free⟩) := by
  refine ⟨sound.keys, sound.addresses, ?_, ?_, ?_⟩
  · intro hold member other refers
    rcases List.mem_or_eq_of_mem_set member with old | rfl
    · exact sound.listed hold old other refers
    · cases refers
  · intro entry member
    obtain ⟨lock, lives, references, taken⟩ := sound.counted entry member
    exact ⟨lock, lives,
      references.trans (congrArg (· + 1) (countP_grip here .free (Grip.refersTo entry.2)).symm),
      taken.trans (countP_grip here .free (Grip.guards entry.2)).symm⟩
  · rintro ⟨owner, place⟩ member
    obtain ⟨hold, present, sameKey, known⟩ := sound.expected _ member
    by_cases same : hold = ⟨key, .stale address⟩
    · rw [same] at sameKey known
      have samePlace : address = place := beq_iff_eq.mp known
      subst sameKey samePlace
      obtain ⟨other, otherPresent, otherKey, refers⟩ := kept member
      have different : other ≠ ⟨key, .stale address⟩ := by
        rintro rfl
        cases refers
      refine ⟨other, Exchange.mem_set_other here _ otherPresent different, otherKey, ?_⟩
      cases grip : other.grip <;> simp_all [Grip.refersTo, Grip.knows]
    · exact ⟨hold, Exchange.mem_set_other here _ present same, sameKey, known⟩

/-- A lock to which only the table refers leaves it. -/
theorem Sound.remove (sound : locks.Sound holds)
    (here : holds[index]? = some ⟨key, .stale address⟩) (listed : (key, address) ∈ locks.table)
    (nobody : holds.countP (fun hold => hold.grip.refersTo address) = 0) :
    Sound { locks.drop address with table := locks.table.filter fun entry => entry.1 != key }
      (holds.set index ⟨key, .free⟩) := by
  have kept {entry : ArtifactKey × Nat}
      (member : entry ∈ locks.table.filter fun entry => entry.1 != key) :
      entry ∈ locks.table ∧ entry.1 ≠ key :=
    ⟨(List.mem_filter.mp member).1, bne_iff_ne.mp (List.mem_filter.mp member).2⟩
  refine ⟨Keyed.distinct_filter _ _ sound.keys, Keyed.distinct_filter _ _ sound.addresses,
    ?_, ?_, ?_⟩
  · intro hold member other refers
    rcases List.mem_or_eq_of_mem_set member with old | rfl
    · have present := sound.listed hold old other refers
      refine List.mem_filter.mpr ⟨present, bne_iff_ne.mpr ?_⟩
      rintro (rfl : hold.key = key)
      cases List.inj_on_of_nodup_map sound.keys present listed rfl
      exact List.countP_eq_zero.mp nobody hold old refers
    · cases refers
  · rintro ⟨owner, place⟩ member
    obtain ⟨present, otherKey⟩ := kept member
    have apart : place ≠ address := by
      rintro rfl
      exact otherKey (sound.sameKey present listed)
    obtain ⟨lock, lives, references, taken⟩ := sound.counted _ present
    exact ⟨lock, (change_other apart _).trans lives,
      references.trans (congrArg (· + 1) (countP_grip here .free (Grip.refersTo place)).symm),
      taken.trans (countP_grip here .free (Grip.guards place)).symm⟩
  · intro entry member
    obtain ⟨present, otherKey⟩ := kept member
    obtain ⟨hold, holdPresent, sameKey, known⟩ := sound.expected entry present
    have other : hold ≠ ⟨key, .stale address⟩ := by
      rintro rfl
      exact otherKey sameKey.symm
    exact ⟨hold, Exchange.mem_set_other here _ holdPresent other, sameKey, known⟩

theorem Sound.sweep (sound : locks.Sound holds)
    (here : holds[index]? = some ⟨key, .stale address⟩) :
    (locks.sweep key address).Sound (holds.set index ⟨key, .free⟩) := by
  rw [KeyLocks.sweep]
  split
  case h_1 missing =>
    refine sound.forget here fun listed => ?_
    rw [sound.lookup.mpr listed] at missing
    cases missing
  case h_2 current found =>
    have listed := sound.lookup.mp found
    obtain ⟨lock, lives, references, -⟩ := sound.counted _ listed
    dsimp only at lives references
    split
    case isTrue last =>
      obtain ⟨rfl, single⟩ := last
      rw [lives] at single
      have one : lock.references = 1 := Option.some.inj single
      exact sound.remove here listed (by omega)
    case isFalse others =>
      refine sound.forget here fun entry => ?_
      cases (sound.lookup.mpr entry).symm.trans found
      have some : 0 < holds.countP fun hold => hold.grip.refersTo address := by
        refine Nat.pos_of_ne_zero fun none => others ⟨rfl, ?_⟩
        rw [lives, Option.map_some, references, none]
      obtain ⟨hold, present, refers⟩ := List.countP_pos_iff.mp some
      exact ⟨hold, present, sound.sameKey (sound.listed hold present address refers) entry, refers⟩

/-- Once no request has anything of a lock, the table is empty. -/
theorem Sound.idle (sound : locks.Sound holds) (free : ∀ hold ∈ holds, hold.grip = .free) :
    locks.table = [] := by
  refine List.eq_nil_iff_forall_not_mem.mpr fun entry member => ?_
  obtain ⟨hold, present, -, known⟩ := sound.expected entry member
  rw [free hold present] at known
  cases known

end KeyLocks

end DeviceKernels
