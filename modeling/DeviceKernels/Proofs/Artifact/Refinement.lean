import DeviceKernels.Proofs.Artifact.Recency

/-
Every run of the cache is a run of the list: the keys in memory are those of the list, the ticks
order them as the list does, and the evictions are the keys that were cut off the list.
-/

namespace DeviceKernels

/-- The keys in memory, the most recently used first, and how many were cut off so far. -/
structure RecencyList where
  keys : List ArtifactKey
  cutOff : Nat
  deriving DecidableEq

namespace RecencyList

def empty : RecencyList := ⟨[], 0⟩

/-- Moves a key to the front. -/
def use (list : RecencyList) (key : ArtifactKey) : RecencyList :=
  { list with keys := key :: list.keys.erase key }

/-- Puts a new key in front and cuts the list to a length. -/
def push (list : RecencyList) (capacity : Nat) (key : ArtifactKey) : RecencyList where
  keys := (key :: list.keys).take capacity
  cutOff := list.cutOff + (list.keys.length + 1 - capacity)

def delete (list : RecencyList) (key : ArtifactKey) : RecencyList :=
  { list with keys := list.keys.erase key }

def clear (list : RecencyList) : RecencyList := { list with keys := [] }

/-- Uses a listed key, and pushes another one if its artifact could be loaded or compiled. -/
def request (list : RecencyList) (capacity : Nat) (key : ArtifactKey)
    (result : Except CompileError Artifact) : RecencyList :=
  if key ∈ list.keys then list.use key
  else match result with
    | .ok _ => list.push capacity key
    | .error _ => list

/-- What a call with its answer does to the list. -/
def step {World : Type} (capacity : Nat) (keyFor : String → ArtifactKey) (list : RecencyList) :
    CacheCommand World → CacheAnswer → RecencyList
  | .compile source _ _, .artifact result => list.request capacity (keyFor source) result
  | .kernel _, .handle (some handle) => list.use handle.artifact.key
  | .invalidate key, _ => list.delete key
  | .clearMemory, _ => list.clear
  | _, _ => list

end RecencyList

namespace ArtifactCache

variable {World : Type} {cache after : ArtifactCache World} {list : RecencyList}
  {order : List CacheEntry} {entry : CacheEntry}

/-- The entries by their last use, the latest first. -/
def recent (cache : ArtifactCache World) : List CacheEntry :=
  cache.entries.mergeSort fun newer older => older.lastUsed ≤ newer.lastUsed

/-- The list stands for the memory of the cache. -/
structure Tracks (cache : ArtifactCache World) (list : RecencyList) : Prop where
  recency : Recency cache.entries cache.clock cache.recent
  keys : cache.recent.map CacheEntry.key = list.keys
  within : list.keys.length ≤ cache.capacity
  evictions : cache.counters.evictions = list.cutOff

namespace Tracks

/-- The order of an entry list is unique, so any order will do. -/
theorem ofOrder (recency : Recency cache.entries cache.clock order)
    (keys : order.map CacheEntry.key = list.keys) (within : list.keys.length ≤ cache.capacity)
    (evictions : cache.counters.evictions = list.cutOff) : cache.Tracks list := by
  have same : cache.recent = order := recency.sorted
  exact ⟨same.symm ▸ recency, same.symm ▸ keys, within, evictions⟩

/-- The list has the keys of the entries. -/
theorem mem_keys (tracks : cache.Tracks list) (key : ArtifactKey) :
    key ∈ cache.entries.map CacheEntry.key ↔ key ∈ list.keys := by
  rw [← tracks.keys]
  exact (tracks.recency.perm.map CacheEntry.key).mem_iff.symm

/-- No key is listed twice. -/
theorem distinct (tracks : cache.Tracks list) : list.keys.Nodup := by
  rw [← tracks.keys]
  exact tracks.recency.distinct

/-- The keys without one are those of the other entries. -/
theorem keys_erase (tracks : cache.Tracks list) (key : ArtifactKey) :
    (cache.recent.filter fun entry => entry.key != key).map CacheEntry.key =
      list.keys.erase key := by
  rw [tracks.distinct.erase_eq_filter, ← tracks.keys, List.filter_map]
  rfl

/-- The same memory is tracked by the same list. -/
theorem sameMemory (tracks : cache.Tracks list) (same : SameMemory cache after) :
    after.Tracks list := by
  have recency := tracks.recency
  rw [← same.entries, ← same.clock] at recency
  refine ofOrder recency tracks.keys ?_ (same.evictions.trans tracks.evictions)
  rw [same.capacity]
  exact tracks.within

/-- An entry that is used moves to the front. -/
theorem touch (tracks : cache.Tracks list) (member : entry ∈ cache.entries) :
    (cache.touch entry.key).Tracks (list.use entry.key) := by
  have listed : entry.key ∈ list.keys := (tracks.mem_keys _).mp (List.mem_map_of_mem member)
  have within := tracks.within
  have shorter := List.length_erase_add_one listed
  refine ofOrder (tracks.recency.touch member) ?_ ?_ tracks.evictions
  · rw [List.map_cons, tracks.keys_erase]
    rfl
  · rw [RecencyList.use, List.length_cons, shorter]
    exact within

/-- An artifact with a new key comes first and may push the last key off. -/
theorem insert {artifact : Artifact} (tracks : cache.Tracks list)
    (fresh : artifact.key ∉ list.keys) :
    (cache.insert artifact).Tracks (list.push cache.capacity artifact.key) := by
  rw [← tracks.keys] at fresh
  have result := insert_overflowed tracks.recency fresh
  refine ofOrder result.recency ?_ ?_ ?_
  · rw [List.map_take, List.map_cons, tracks.keys]
    rfl
  · rw [(insert_settings cache artifact).capacity]
    exact List.length_take_le _ _
  · have count : cache.recent.length = list.keys.length := by rw [← tracks.keys, List.length_map]
    rw [result.evictions, List.length_cons, count, tracks.evictions]
    rfl

/-- A key that is forgotten is deleted. -/
theorem forget (tracks : cache.Tracks list) (key : ArtifactKey) :
    (cache.forget key).2.Tracks (list.delete key) := by
  obtain ⟨settings, clock, counters⟩ := forget_rest cache key
  have recency := tracks.recency.filter fun entry => entry.key != key
  rw [← forget_entries, ← clock] at recency
  refine ofOrder recency (tracks.keys_erase key) ?_ ?_
  · rw [settings.capacity]
    exact (List.length_erase_le).trans tracks.within
  · rw [counters]
    exact tracks.evictions

/-- A request of a source is a request of its key. -/
theorem compileSource (tracks : cache.Tracks list) (source : String) (kernelNames : List String)
    (now : Instant) :
    (cache.compileSource source kernelNames now).2.Tracks
      (list.request cache.capacity (cache.keyFor source)
        (cache.compileSource source kernelNames now).1) := by
  unfold RecencyList.request
  rcases compileSource_cases cache source kernelNames now with
    ⟨entry, quiet, found, same, done⟩ | ⟨absent, quiet, same, outcome⟩
  · obtain ⟨member, sameKey⟩ := find?_some found
    have listed : cache.keyFor source ∈ list.keys :=
      (tracks.mem_keys _).mp (sameKey ▸ List.mem_map_of_mem member)
    have touched := tracks.touch member
    rw [sameKey] at touched
    rw [if_pos listed, done]
    exact touched.sameMemory same
  · have unlisted : cache.keyFor source ∉ list.keys := by
      rw [← tracks.mem_keys]
      exact find?_none.mp absent
    have quietTracks := tracks.sameMemory same
    rw [if_neg unlisted]
    rcases outcome with ⟨error, failed⟩ | ⟨artifact, key, done⟩
    · rw [failed]
      exact quietTracks
    · rw [done]
      rw [← key] at unlisted ⊢
      rw [← same.capacity]
      exact quietTracks.insert unlisted

/-- One call of the cache is one step of the list. -/
theorem step (tracks : cache.Tracks list) (command : CacheCommand World) :
    (cache.step command).2.Tracks
      (list.step cache.capacity cache.keyFor command (cache.step command).1) := by
  cases command with
  | compile source kernelNames now => exact tracks.compileSource source kernelNames now
  | kernel name =>
      rcases kernel_cases cache name with missed | ⟨key, entry, -, held, found⟩
      · simp only [ArtifactCache.step, missed]
        exact tracks
      · simp only [ArtifactCache.step, found]
        exact tracks.touch (find?_some held).1
  | invalidate key => exact (tracks.forget key).sameMemory (invalidate_forget cache key)
  | clearMemory => exact ofOrder (.empty _) rfl (Nat.zero_le _) tracks.evictions
  | purgeDisk => exact tracks.sameMemory (purgeDisk_sameMemory cache)
  | disturb world directory => exact tracks.sameMemory (disturb_sameMemory cache world directory)

end Tracks

/-- A run of the cache, and of the list beside it. -/
def follow (capacity : Nat) (keyFor : String → ArtifactKey) (cache : ArtifactCache World)
    (list : RecencyList) : List (CacheCommand World) → ArtifactCache World × RecencyList
  | [] => (cache, list)
  | command :: rest =>
      let (answer, next) := cache.step command
      follow capacity keyFor next (list.step capacity keyFor command answer) rest

/-- The list stays with the cache through every run. -/
theorem follow_tracks (tracks : cache.Tracks list) (commands : List (CacheCommand World)) :
    (follow cache.capacity cache.keyFor cache list commands).1.Tracks
      (follow cache.capacity cache.keyFor cache list commands).2 := by
  induction commands generalizing cache list with
  | nil => exact tracks
  | cons command rest ih =>
      have same := step_settings cache command
      have rest := ih (tracks.step command)
      rw [same.capacity, same.keyFor] at rest
      exact rest

/-- Every run keeps the settings. -/
theorem follow_settings (capacity : Nat) (keyFor : String → ArtifactKey)
    (cache : ArtifactCache World) (list : RecencyList) (commands : List (CacheCommand World)) :
    SameSettings cache (follow capacity keyFor cache list commands).1 := by
  induction commands generalizing cache list with
  | nil => exact .refl cache
  | cons command rest ih => exact (step_settings cache command).trans (ih _ _)

/-- The memory of the cache is the list: it holds the listed keys, its ticks are different and
order the keys as they are listed, the list is no longer than the capacity, and the evictions are
the keys that were cut off. -/
structure Refines (capacity : Nat) (cache : ArtifactCache World) (list : RecencyList) : Prop where
  holds : ∀ key, cache.holds key ↔ key ∈ list.keys
  ordered : cache.recent.map CacheEntry.key = list.keys
  ticks : (cache.entries.map CacheEntry.lastUsed).Nodup
  distinct : list.keys.Nodup
  within : list.keys.length ≤ capacity
  evictions : cache.statistics.lookup "evictions" = some list.cutOff

theorem Tracks.refines (tracks : cache.Tracks list) : Refines cache.capacity cache list where
  holds key := by
    rw [ArtifactCache.holds, Option.isSome_iff_ne_none, ne_eq, find?_none, not_not]
    exact tracks.mem_keys key
  ordered := tracks.keys
  ticks := tracks.recency.ticks_distinct
  distinct := tracks.distinct
  within := tracks.within
  evictions := congrArg some tracks.evictions

/-- Every run of a new cache refines the run of the empty list. -/
theorem create_refines {capacity : Nat} {options : CompileOptions} {compiler : Compiler World}
    {world : World} {store : Option ArtifactStore}
    (created : create capacity options compiler world store = .ok cache)
    (commands : List (CacheCommand World)) :
    let keyFor source := ArtifactKey.compute source options compiler.name
    Refines capacity (follow capacity keyFor cache .empty commands).1
      (follow capacity keyFor cache .empty commands).2 := by
  rw [create] at created
  split at created
  · cases created
  · cases created
    have fresh : Tracks
        { capacity, options, compiler, world, store, entries := [], kernels := [], clock := 0,
          counters := .zero } .empty :=
      .ofOrder (.empty 0) rfl (Nat.zero_le _) rfl
    have refines := (follow_tracks fresh commands).refines
    rwa [(follow_settings _ _ _ _ commands).capacity] at refines

/-- A kernel of the first source is looked up before the third source comes, so the second source is
cut off. -/
theorem create_refines_echo : ∃ cache : ArtifactCache Unit,
    create 2 .standard .echo () none = .ok cache ∧
      let keyFor source := ArtifactKey.compute source .standard Compiler.echo.name
      let run := follow 2 keyFor cache .empty
        [.compile "a" ["f"] ⟨0, 0⟩, .compile "b" ["g"] ⟨1, 0⟩, .kernel "f",
          .compile "c" ["h"] ⟨2, 0⟩]
      run.2 = ⟨[keyFor "c", keyFor "a"], 1⟩ ∧ Refines 2 run.1 run.2 := by
  have created : create 2 .standard .echo () none = .ok _ := rfl
  exact ⟨_, created, by decide +kernel, create_refines created _⟩

end ArtifactCache

end DeviceKernels
