import DeviceKernels.Proofs.Artifact.Answers
import DeviceKernels.Proofs.Artifact.Refinement

/-
The conservation laws of the counters. Beside the cache stands a ledger of what the calls were
told and asked for, and the compiler counts its own invocations.
-/

namespace DeviceKernels

/-- The compiler that counts its invocations beside its world. -/
def Compiler.counted {World : Type} (compiler : Compiler World) : Compiler (World × Nat) where
  name := compiler.name
  compile world source options :=
    let (result, after) := compiler.compile world.1 source options
    (result, after, world.2 + 1)

theorem Compiler.counted_invocations {World : Type} {compiler : Compiler World}
    {world after : World × Nat} {source : String} {options : CompileOptions}
    {result : Except CompileError Bytes}
    (outcome : compiler.counted.compile world source options = (result, after)) :
    after.2 = world.2 + 1 :=
  (congrArg (fun outcome => outcome.2.2) outcome).symm

/-- The calls of a program on one cache, and what other programs do between two calls. -/
inductive CacheCall (World : Type) where
  | source (text : String) (kernelNames : List String) (now : Instant)
  | module (kernels : List Kernel) (nonempty : kernels ≠ []) (now : Instant)
  | kernel (name : String)
  | invalidate (key : ArtifactKey)
  | clearMemory
  | purgeDisk
  /-- Other programs change the world of the compiler and the directory of the store. -/
  | disturb (world : World) (directory : Directory)

/-- What a program knows of its calls. -/
structure CacheLedger where
  /-- The requests for an artifact. -/
  requests : Nat
  /-- The entries that left memory in invalidations. -/
  invalidated : Nat
  /-- The sum of the counts that clearing memory answered. -/
  cleared : Nat
  deriving DecidableEq

namespace CacheLedger

def zero : CacheLedger := ⟨0, 0, 0⟩

def request (ledger : CacheLedger) : CacheLedger := { ledger with requests := ledger.requests + 1 }

/-- The conservation laws of the counters, with the invocations of the compiler and the entries
that memory holds. -/
structure Balances (ledger : CacheLedger) (counters : CacheCounters) (invocations held : Nat) :
    Prop where
  /-- A request is a hit in memory, a hit in the store or a miss. -/
  requests : counters.memoryHits + counters.diskHits + counters.misses = ledger.requests
  /-- A miss is a compilation or a failure. -/
  misses : counters.misses = counters.compiles + counters.compileFailures
  /-- A miss is an invocation of the compiler. -/
  invocations : counters.misses = invocations
  /-- What came into memory is there, or it was evicted, invalidated or cleared. -/
  entries : counters.diskHits + counters.compiles =
    held + counters.evictions + ledger.invalidated + ledger.cleared

end CacheLedger

/-- A cache whose compiler is counted, and the ledger of the calls on it. -/
structure CacheAccount (World : Type) where
  cache : ArtifactCache (World × Nat)
  ledger : CacheLedger

namespace ArtifactCache

variable {World : Type} {cache : ArtifactCache World} {key : ArtifactKey} {artifact : Artifact}
  {list : RecencyList}

/-- An overflow counts evictions only, and leaves the world alone. -/
theorem evictOverflow_counters (count : Nat) (cache : ArtifactCache World) :
    (evictOverflow count cache).world = cache.world ∧
      ∃ evictions, (evictOverflow count cache).counters = { cache.counters with evictions } := by
  induction count generalizing cache with
  | zero => exact ⟨rfl, cache.counters.evictions, rfl⟩
  | succ count ih =>
      rw [evictOverflow]
      split
      · exact ⟨rfl, cache.counters.evictions, rfl⟩
      · split
        · exact ⟨rfl, cache.counters.evictions, rfl⟩
        case h_2 entry found =>
          obtain ⟨world, evictions, counted⟩ := ih (cache.evict entry.artifact.key)
          refine ⟨world.trans (forget_world cache _), evictions, counted.trans ?_⟩
          rw [evict, (forget_rest cache _).2.2]

/-- An insertion counts evictions only, and leaves the world alone. -/
theorem insert_counters (cache : ArtifactCache World) (artifact : Artifact) :
    (cache.insert artifact).world = cache.world ∧
      ∃ evictions, (cache.insert artifact).counters = { cache.counters with evictions } :=
  evictOverflow_counters _ (cache.adopt artifact)

/-- An artifact with a new key is one entry more, in memory or among the evictions. -/
theorem Tracks.length_insert (tracks : cache.Tracks list) (fresh : artifact.key ∉ list.keys) :
    (cache.insert artifact).entries.length + (cache.insert artifact).counters.evictions =
      cache.entries.length + cache.counters.evictions + 1 := by
  rw [← tracks.keys] at fresh
  have result := insert_overflowed tracks.recency fresh
  have before := tracks.recency.perm.length_eq
  have after := result.recency.perm.length_eq
  rw [List.length_take, List.length_cons] at after
  rw [result.evictions, List.length_cons]
  omega

/-- There are as many entries as listed keys. -/
theorem Tracks.length_entries (tracks : cache.Tracks list) :
    cache.entries.length = list.keys.length := by
  rw [← tracks.recency.perm.length_eq, ← tracks.keys, List.length_map]

/-- A module of some kernels is a request of its source, unless the program stops as it writes it. -/
theorem compile_cases (cache : ArtifactCache World) {kernels : List Kernel}
    (nonempty : kernels ≠ []) (now : Instant) :
    kernels.all Kernel.isWritable = true ∧
        (∃ made, ModuleSource.ofKernels? kernels = some made ∧
          cache.compile kernels now = cache.compileSource made.source made.symbols now) ∨
      kernels.all Kernel.isWritable = false ∧
        cache.compile kernels now = (.error .stopped, cache) := by
  cases made : ModuleSource.ofKernels? kernels with
  | none => simp [ModuleSource.ofKernels?, nonempty] at made
  | some found =>
      cases writable : kernels.all Kernel.isWritable with
      | true => exact .inl ⟨rfl, found, rfl, by simp [compile, made, writable]⟩
      | false => exact .inr ⟨rfl, by simp [compile, made, writable]⟩

end ArtifactCache

namespace CacheAccount

variable {World : Type} {account : CacheAccount World}

def step (account : CacheAccount World) : CacheCall World → CacheAccount World
  | .source text kernelNames now =>
      ⟨(account.cache.compileSource text kernelNames now).2, account.ledger.request⟩
  | .module kernels _ now =>
      -- A module that stops the program is not asked for.
      ⟨(account.cache.compile kernels now).2,
        if kernels.all Kernel.isWritable then account.ledger.request else account.ledger⟩
  | .kernel name => { account with cache := (account.cache.kernel name).2 }
  | .invalidate key =>
      let after := (account.cache.invalidate key).2
      let gone := account.cache.entries.length - after.entries.length
      ⟨after, { account.ledger with invalidated := account.ledger.invalidated + gone }⟩
  | .clearMemory =>
      let (count, after) := account.cache.clearMemory
      ⟨after, { account.ledger with cleared := account.ledger.cleared + count }⟩
  | .purgeDisk => { account with cache := account.cache.purgeDisk.2 }
  | .disturb world directory =>
      { account with cache := account.cache.disturb (world, account.cache.world.2) directory }

def run (account : CacheAccount World) (calls : List (CacheCall World)) : CacheAccount World :=
  calls.foldl step account

/-- The ledger balances the counters, and memory is no larger than it may be. -/
structure Balanced (capacity : Nat) (account : CacheAccount World) : Prop where
  balances : account.ledger.Balances account.cache.counters account.cache.world.2
    account.cache.entries.length
  within : account.cache.entries.length ≤ capacity

/-- A balanced account with all that a call needs to keep it balanced. -/
structure Conserved (compiler : Compiler World) (capacity : Nat) (account : CacheAccount World) :
    Prop where
  balances : account.ledger.Balances account.cache.counters account.cache.world.2
    account.cache.entries.length
  compiler : account.cache.compiler = compiler.counted
  capacity : account.cache.capacity = capacity
  tracked : ∃ list, account.cache.Tracks list

end CacheAccount

namespace CacheLedger.Balances

open ArtifactCache

variable {World : Type} {ledger : CacheLedger} {cache after : ArtifactCache (World × Nat)}
  {list : RecencyList} {artifact : Artifact} {compiler : Compiler World}

/-- An artifact with a new key balances as one entry more. -/
theorem insert
    (balances : ledger.Balances cache.counters cache.world.2 (cache.entries.length + 1))
    (tracks : cache.Tracks list) (fresh : artifact.key ∉ list.keys) :
    ledger.Balances (cache.insert artifact).counters (cache.insert artifact).world.2
      (cache.insert artifact).entries.length := by
  have length := tracks.length_insert fresh
  obtain ⟨world, evictions, counters⟩ := insert_counters cache artifact
  rw [counters] at length ⊢
  rw [world]
  refine ⟨balances.requests, balances.misses, balances.invocations, ?_⟩
  have entries := balances.entries
  dsimp only at length ⊢
  omega

/-- A request balances with one request more, however it is answered. -/
theorem answered (balances : ledger.Balances cache.counters cache.world.2 cache.entries.length)
    (counted : cache.compiler = compiler.counted) (tracks : cache.Tracks list) {source : String}
    {kernelNames : List String} {now : Instant} {result : Except CompileError Artifact}
    (answered : Answered cache source kernelNames now result after) :
    ledger.request.Balances after.counters after.world.2 after.entries.length := by
  obtain ⟨requests, misses, invocations, entries⟩ := balances
  have unlisted : cache.find? (cache.keyFor source) = none → cache.keyFor source ∉ list.keys :=
    fun absent member => find?_none.mp absent ((tracks.mem_keys _).mpr member)
  cases answered with
  | remembered found =>
      rw [touch, List.length_map]
      constructor <;> simp only [request] <;> omega
  | stored absent loaded =>
      refine insert ?_ (tracks.sameMemory (.quiet cache _ _ _ rfl)) ?_
      · constructor <;> simp only [request] <;> omega
      · rw [loadStored_key loaded]
        exact unlisted absent
  | refused absent loaded failed =>
      have invoked := Compiler.counted_invocations (counted ▸ failed)
      constructor <;> simp only [request] <;> omega
  | compiled absent loaded made =>
      have invoked := Compiler.counted_invocations (counted ▸ made)
      refine insert ?_ (tracks.sameMemory (.quiet cache _ _ _ rfl)) (unlisted absent)
      constructor <;> simp only [request, persist] <;> omega

/-- A loss of entries balances if it is entered. -/
theorem lose (balances : ledger.Balances cache.counters cache.world.2 cache.entries.length)
    {held : Nat} (fewer : held ≤ cache.entries.length) :
    { ledger with invalidated := ledger.invalidated + (cache.entries.length - held) }.Balances
      cache.counters cache.world.2 held := by
  refine ⟨balances.requests, balances.misses, balances.invocations, ?_⟩
  have entries := balances.entries
  dsimp only
  omega

end CacheLedger.Balances

namespace CacheAccount

open ArtifactCache

variable {World : Type} {account : CacheAccount World} {compiler : Compiler World} {capacity : Nat}

/-- To the cache a call is a command, or it is nothing. -/
theorem step_command (account : CacheAccount World) (call : CacheCall World) :
    (account.step call).cache = account.cache ∨
      ∃ command, (account.step call).cache = (account.cache.step command).2 := by
  cases call with
  | source text kernelNames now => exact .inr ⟨.compile text kernelNames now, rfl⟩
  | module kernels nonempty now =>
      rcases compile_cases account.cache nonempty now with ⟨-, made, -, same⟩ | ⟨-, stopped⟩
      · exact .inr ⟨.compile made.source made.symbols now, congrArg Prod.snd same⟩
      · exact .inl (congrArg Prod.snd stopped)
  | kernel name => exact .inr ⟨.kernel name, rfl⟩
  | invalidate key => exact .inr ⟨.invalidate key, rfl⟩
  | clearMemory => exact .inr ⟨.clearMemory, rfl⟩
  | purgeDisk => exact .inr ⟨.purgeDisk, rfl⟩
  | disturb world directory =>
      exact .inr ⟨.disturb (world, account.cache.world.2) directory, rfl⟩

/-- A call keeps the balance. -/
theorem Conserved.step_balances (conserved : account.Conserved compiler capacity)
    (call : CacheCall World) :
    (account.step call).ledger.Balances (account.step call).cache.counters
      (account.step call).cache.world.2 (account.step call).cache.entries.length := by
  obtain ⟨balances, counted, -, list, tracks⟩ := conserved
  cases call with
  | source text kernelNames now =>
      exact balances.answered counted tracks (compileSource_answered _ text kernelNames now)
  | module kernels nonempty now =>
      rcases compile_cases account.cache nonempty now with
        ⟨writable, made, -, same⟩ | ⟨unwritable, stopped⟩
      · rw [step, same, if_pos writable]
        exact balances.answered counted tracks
          (compileSource_answered _ made.source made.symbols now)
      · simp only [step, stopped, unwritable]
        exact balances
  | kernel name =>
      rcases kernel_cases account.cache name with missed | ⟨key, entry, -, -, found⟩
      · simp only [step, missed]
        exact balances
      · simp only [step, found, touch, List.length_map]
        exact balances
  | invalidate key =>
      obtain ⟨store, left⟩ := invalidate_store account.cache key
      have fewer := List.length_filter_le (fun entry => entry.key != key) account.cache.entries
      rw [← forget_entries] at fewer
      simp only [step, left, (forget_rest account.cache key).2.2, forget_world]
      exact balances.lose fewer
  | clearMemory =>
      have entries := balances.entries
      refine ⟨balances.requests, balances.misses, balances.invocations, ?_⟩
      simp only [step, clearMemory, List.length_nil]
      omega
  | purgeDisk =>
      obtain ⟨store, left⟩ := purgeDisk_store account.cache
      simp only [step, left]
      exact balances
  | disturb world directory => exact balances

theorem Conserved.step (conserved : account.Conserved compiler capacity) (call : CacheCall World) :
    (account.step call).Conserved compiler capacity := by
  have balances := conserved.step_balances call
  rcases step_command account call with same | ⟨command, same⟩
  · refine ⟨balances, ?_, ?_, ?_⟩
    · rw [same, conserved.compiler]
    · rw [same, conserved.capacity]
    · rw [same]
      exact conserved.tracked
  · obtain ⟨list, tracks⟩ := conserved.tracked
    have settings := step_settings account.cache command
    refine ⟨balances, ?_, ?_, ?_⟩
    · rw [same, settings.compiler, conserved.compiler]
    · rw [same, settings.capacity, conserved.capacity]
    · rw [same]
      exact ⟨_, tracks.step command⟩

theorem Conserved.run (conserved : account.Conserved compiler capacity)
    (calls : List (CacheCall World)) : (account.run calls).Conserved compiler capacity := by
  induction calls generalizing account with
  | nil => exact conserved
  | cons call calls ih => exact ih (conserved.step call)

theorem Conserved.balanced (conserved : account.Conserved compiler capacity) :
    account.Balanced capacity := by
  obtain ⟨balances, -, rfl, list, tracks⟩ := conserved
  exact ⟨balances, tracks.length_entries.trans_le tracks.within⟩

/-- Every run of calls on a new cache is balanced, whatever the disk holds and the compiler
answers. -/
theorem run_balanced {options : CompileOptions} {world : World} {store : Option ArtifactStore}
    {cache : ArtifactCache (World × Nat)}
    (created : create capacity options compiler.counted (world, 0) store = .ok cache)
    (calls : List (CacheCall World)) : (run ⟨cache, .zero⟩ calls).Balanced capacity := by
  have fresh : Conserved compiler capacity ⟨cache, .zero⟩ := by
    rw [(create_ok created).2]
    exact ⟨⟨rfl, rfl, rfl, rfl⟩, rfl, rfl, .empty, .ofOrder (.empty 0) rfl (Nat.zero_le _) rfl⟩
  exact (fresh.run calls).balanced

/-- Of two artifacts that came into a memory for one, the first was evicted and the second was
invalidated. -/
theorem run_balanced_echo : ∃ cache : ArtifactCache (Unit × Nat),
    create 1 .standard Compiler.echo.counted ((), 0) none = .ok cache ∧
      let calls := [.source "a" ["f"] ⟨0, 0⟩, .source "b" ["g"] ⟨0, 0⟩,
        .invalidate (cache.keyFor "b")]
      let account := run ⟨cache, .zero⟩ calls
      (account.cache.counters, account.ledger) = (⟨0, 0, 2, 2, 0, 1⟩, ⟨2, 1, 0⟩) ∧
        account.Balanced 1 := by
  have created : create 1 .standard Compiler.echo.counted ((), 0) none = .ok _ := rfl
  exact ⟨_, created, by decide +kernel, run_balanced created _⟩

end CacheAccount

end DeviceKernels
