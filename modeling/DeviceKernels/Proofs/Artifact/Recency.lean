import DeviceKernels.Proofs.Artifact.Commands
import Mathlib.Data.List.Sort

/-
The order of use. A cache marks its entries with ticks of a clock, which never repeat, so the
ticks order the entries. A use brings an entry to the front of the order and an overflow cuts the
order at its end.
-/

namespace DeviceKernels

/-- The entries in the order of their last use, the latest first; all uses lie in the past. -/
structure Recency (entries : List CacheEntry) (clock : Nat) (order : List CacheEntry) : Prop where
  perm : order.Perm entries
  decreasing : order.Pairwise fun newer older => older.lastUsed < newer.lastUsed
  past : ∀ entry ∈ entries, entry.lastUsed < clock
  distinct : (order.map CacheEntry.key).Nodup

namespace Recency

variable {entries order front : List CacheEntry} {entry last : CacheEntry} {clock : Nat}
  {key : ArtifactKey}

theorem empty (clock : Nat) : Recency [] clock [] := ⟨.refl _, .nil, by simp, by simp⟩

/-- The entries have different keys. -/
theorem entries_distinct (recency : Recency entries clock order) :
    (entries.map CacheEntry.key).Nodup :=
  (recency.perm.map CacheEntry.key).nodup_iff.mp recency.distinct

/-- The order of the entries themselves does not matter. -/
theorem reorder (recency : Recency entries clock order) {others : List CacheEntry}
    (same : entries.Perm others) : Recency others clock order where
  perm := recency.perm.trans same
  decreasing := recency.decreasing
  past entry member := recency.past entry (same.mem_iff.mpr member)
  distinct := recency.distinct

/-- Entries that go leave the order of the others. -/
theorem filter (recency : Recency entries clock order) (test : CacheEntry → Bool) :
    Recency (entries.filter test) clock (order.filter test) where
  perm := recency.perm.filter test
  decreasing := recency.decreasing.filter test
  past entry member := recency.past entry (List.mem_of_mem_filter member)
  distinct := Keyed.distinct_filter CacheEntry.key test recency.distinct

/-- An entry with a new key that is used now comes first. -/
theorem push (recency : Recency entries clock order) (entry : CacheEntry)
    (now : entry.lastUsed = clock) (fresh : entry.key ∉ order.map CacheEntry.key) :
    Recency (entries ++ [entry]) (clock + 1) (entry :: order) where
  perm := (recency.perm.cons entry).trans (List.perm_append_singleton entry entries).symm
  decreasing := by
    refine List.pairwise_cons.mpr ⟨?_, recency.decreasing⟩
    intro older member
    have before := recency.past older (recency.perm.mem_iff.mp member)
    omega
  past other member := by
    rcases List.mem_append.mp member with member | member
    · exact (recency.past other member).trans (Nat.lt_succ_self clock)
    · rw [List.mem_singleton.mp member, now]
      exact Nat.lt_succ_self clock
  distinct := List.nodup_cons.mpr ⟨fresh, recency.distinct⟩

/-- An entry that is used now comes first. -/
theorem touch (recency : Recency entries clock order) (member : entry ∈ entries) :
    Recency (entries.map fun other =>
        if other.key == entry.key then { other with lastUsed := clock } else other) (clock + 1)
      ({ entry with lastUsed := clock } :: order.filter fun other => other.key != entry.key) := by
  have others := recency.filter fun other => other.key != entry.key
  have fresh : entry.key ∉
      (order.filter fun other => other.key != entry.key).map CacheEntry.key := by simp
  have front := others.push { entry with lastUsed := clock } rfl fresh
  refine front.reorder (List.perm_append_comm.trans ?_)
  have split := Keyed.filter_perm CacheEntry.key member recency.entries_distinct
  refine List.Perm.trans ?_ (split.map _).symm
  rw [List.map_cons, if_pos (beq_self_eq_true _)]
  refine .cons _ (.of_eq ((List.map_congr_left ?_).trans (List.map_id _)).symm)
  intro other kept
  have different := bne_iff_ne.mp (List.mem_filter.mp kept).2
  rw [if_neg (by simpa using different), id]

/-- The entry at the end of the order is the one that was used longest ago. -/
theorem oldest (recency : Recency entries clock (front ++ [last])) :
    ArtifactCache.oldest? entries = some last := by
  have lastMember : last ∈ entries := recency.perm.mem_iff.mp (by simp)
  have least := List.apply_get_minOn?_le_of_mem (f := CacheEntry.lastUsed) lastMember
  obtain ⟨entry, found⟩ := Option.isSome_iff_exists.mp
    (List.isSome_minOn?_of_mem (f := CacheEntry.lastUsed) lastMember)
  simp only [found, Option.get_some] at least
  have member := recency.perm.mem_iff.mpr (List.minOn?_mem found)
  rcases List.mem_append.mp member with before | here
  · have later := (List.pairwise_append.mp recency.decreasing).2.2 entry before last (by simp)
    omega
  · rw [ArtifactCache.oldest?, found, List.mem_singleton.mp here]

/-- Without the key of the last entry the order ends before it. -/
theorem cut_last (recency : Recency entries clock (front ++ [last])) :
    (front ++ [last]).filter (fun entry => entry.key != last.key) = front := by
  have distinct := recency.distinct
  rw [List.map_append, List.map_singleton, List.nodup_append] at distinct
  have absent : last.key ∉ front.map CacheEntry.key := by
    intro member
    exact distinct.2.2 last.key member last.key (by simp) rfl
  rw [List.filter_append, List.filter_cons_of_neg (by simp), List.filter_nil, List.append_nil]
  exact Keyed.filter_absent CacheEntry.key absent

/-- No two entries were used at the same tick. -/
theorem ticks_distinct (recency : Recency entries clock order) :
    (entries.map CacheEntry.lastUsed).Nodup := by
  refine (recency.perm.map CacheEntry.lastUsed).nodup_iff.mp ?_
  rw [List.Nodup, List.pairwise_map]
  exact recency.decreasing.imp fun later => Nat.ne_of_gt later

/-- The order is the order of the ticks. -/
theorem sorted (recency : Recency entries clock order) :
    (entries.mergeSort fun newer older => older.lastUsed ≤ newer.lastUsed) = order := by
  have ordered : (entries.mergeSort fun newer older =>
      older.lastUsed ≤ newer.lastUsed).Pairwise fun newer older =>
        older.lastUsed ≤ newer.lastUsed := by
    refine List.Pairwise.imp of_decide_eq_true (List.pairwise_mergeSort ?_ ?_ entries)
    · simp only [decide_eq_true_eq]
      omega
    · simp only [Bool.or_eq_true, decide_eq_true_eq]
      omega
  refine List.Perm.eq_of_pairwise ?_ ordered
    (recency.decreasing.imp Nat.le_of_lt)
    ((List.mergeSort_perm _ _).trans recency.perm.symm)
  intro first second firstMember secondMember notAfter notBefore
  have firstHeld := (List.mergeSort_perm _ _).mem_iff.mp firstMember
  have secondHeld := recency.perm.mem_iff.mp secondMember
  exact List.inj_on_of_nodup_map recency.ticks_distinct firstHeld secondHeld (by omega)

end Recency

namespace ArtifactCache

variable {World : Type} {cache : ArtifactCache World} {order : List CacheEntry}

/-- An overflow cuts the order to the capacity and counts what it cuts off. -/
structure Overflowed (before after : ArtifactCache World) (order : List CacheEntry) : Prop where
  recency : Recency after.entries after.clock (order.take before.capacity)
  evictions : after.counters.evictions =
    before.counters.evictions + (order.length - before.capacity)

/-- Without an overflow nothing is cut off. -/
theorem overflowed_refl (recency : Recency cache.entries cache.clock order)
    (fits : order.length ≤ cache.capacity) : Overflowed cache cache order where
  recency := by rwa [List.take_of_length_le fits]
  evictions := by rw [Nat.sub_eq_zero_of_le fits, Nat.add_zero]

/-- Giving up the oldest entry again and again cuts the order to the capacity. -/
theorem evictOverflow_overflowed (count : Nat)
    (recency : Recency cache.entries cache.clock order)
    (enough : order.length ≤ count + cache.capacity) :
    Overflowed cache (evictOverflow count cache) order := by
  induction count generalizing cache order with
  | zero => exact overflowed_refl recency (by omega)
  | succ count ih =>
      rw [evictOverflow, ← recency.perm.length_eq]
      split
      case isTrue fits => exact overflowed_refl recency fits
      case isFalse overfull =>
        -- The entry that goes is the last of the order, and the fuel is one less with it.
        rcases List.eq_nil_or_concat order with rfl | ⟨front, last, rfl⟩
        · simp at overfull
        rw [List.concat_eq_append] at recency enough overfull ⊢
        rw [List.length_append, List.length_singleton] at overfull enough
        rw [recency.oldest]
        dsimp only
        obtain ⟨settings, clock, evictions⟩ := evict_rest cache last.key
        have rest := recency.filter fun entry => entry.key != last.key
        rw [recency.cut_last, ← forget_entries, ← clock] at rest
        have result : Overflowed (cache.evict last.key)
            (evictOverflow count (cache.evict last.key)) front := by
          refine ih rest ?_
          rw [settings.capacity]
          omega
        refine ⟨?_, ?_⟩
        · rw [List.take_append_of_le_length (by omega), ← settings.capacity]
          exact result.recency
        · rw [result.evictions, evictions, settings.capacity, List.length_append,
            List.length_singleton]
          omega

/-- An artifact with a new key is used now and may push others out. -/
theorem insert_overflowed {artifact : Artifact} (recency : Recency cache.entries cache.clock order)
    (fresh : artifact.key ∉ order.map CacheEntry.key) :
    Overflowed cache (cache.insert artifact) (⟨artifact, cache.clock⟩ :: order) := by
  have absent : artifact.key ∉ cache.entries.map CacheEntry.key := by
    rwa [← (recency.perm.map CacheEntry.key).mem_iff]
  have adopted := recency.push ⟨artifact, cache.clock⟩ rfl fresh
  rw [← adopt_entries absent] at adopted
  have result : Overflowed (cache.adopt artifact) (cache.insert artifact)
      (⟨artifact, cache.clock⟩ :: order) := by
    refine evictOverflow_overflowed _ adopted ?_
    rw [← adopted.perm.length_eq]
    exact Nat.le_add_right _ _
  exact ⟨result.recency, result.evictions⟩

end ArtifactCache

end DeviceKernels
