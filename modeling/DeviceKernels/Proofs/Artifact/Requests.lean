import DeviceKernels.Artifact.KeyLocks
import DeviceKernels.Proofs.Artifact.Commands

/-
Requests that are under way at the same time. Each look into memory, each change of a lock and
each look into the store is one step, and a compilation begins with a step and ends with a step.
-/

namespace DeviceKernels

/-- How far a request has come that holds the lock of its key. -/
inductive Work where
  | entered
  /-- The key was not in memory. -/
  | missed
  /-- The key was not in the store either. -/
  | unstored
  | compiling
  | done (result : Except CompileError Artifact)

/-- How far a request has come, with the address of its lock. -/
inductive Stage where
  | arrived
  /-- The key was not in memory. -/
  | missed
  | waiting (lock : Nat)
  | inside (lock : Nat) (work : Work)
  | released (lock : Nat) (result : Except CompileError Artifact)
  /-- The lock may have been freed since; its address is remembered. -/
  | dropped (lock : Nat) (result : Except CompileError Artifact)
  | answered (result : Except CompileError Artifact)

/-- A request with its key. -/
structure Caller where
  key : ArtifactKey
  source : String
  kernelNames : List String
  stage : Stage

/-- A cache with the requests that were made of it so far. -/
structure RequestSystem (World : Type) where
  cache : ArtifactCache World
  locks : KeyLocks
  activeCompiles : Nat
  callers : List Caller

/-- What a step means to the artifacts. -/
inductive RequestEvent (World : Type) where
  | quiet
  /-- The artifact of the key came from the store. -/
  | loaded (key : ArtifactKey)
  /-- The compiler was called for the key. -/
  | began (key : ArtifactKey)
  | ended (key : ArtifactKey) (result : Except CompileError Artifact)
  | other (command : CacheCommand World)

/-- Puts an artifact of the store into memory. -/
def ArtifactCache.admit {World : Type} (cache : ArtifactCache World) (artifact : Artifact) :
    ArtifactCache World :=
  ArtifactCache.insert
    { cache with counters := { cache.counters with diskHits := cache.counters.diskHits + 1 } } artifact

namespace RequestSystem

variable {World : Type}

/-- One step of a request: what it means, what it changes, and how far the request has come then. -/
inductive Move (system : RequestSystem World) (caller : Caller) :
    RequestEvent World → RequestSystem World → Stage → Prop
  | hit {artifact : Artifact} {cache : ArtifactCache World} (stage : caller.stage = .arrived)
      (found : system.cache.lookup caller.key = some (artifact, cache)) :
      Move system caller .quiet { system with cache } (.answered (.ok artifact))
  | miss (stage : caller.stage = .arrived) (absent : system.cache.lookup caller.key = none) :
      Move system caller .quiet system .missed
  | claim (stage : caller.stage = .missed) {free address : Nat} {locks : KeyLocks}
      (unused : system.locks.heap free = none)
      (claimed : system.locks.claim caller.key free = (address, locks)) :
      Move system caller .quiet { system with locks } (.waiting address)
  | acquire {address : Nat} (stage : caller.stage = .waiting address) {locks : KeyLocks}
      (acquired : system.locks.acquire? address = some locks) :
      Move system caller .quiet { system with locks } (.inside address .entered)
  | hitInside {address : Nat} (stage : caller.stage = .inside address .entered)
      {artifact : Artifact} {cache : ArtifactCache World}
      (found : system.cache.lookup caller.key = some (artifact, cache)) :
      Move system caller .quiet { system with cache } (.inside address (.done (.ok artifact)))
  | missInside {address : Nat} (stage : caller.stage = .inside address .entered)
      (absent : system.cache.lookup caller.key = none) :
      Move system caller .quiet system (.inside address .missed)
  | load {address : Nat} (stage : caller.stage = .inside address .missed)
      {artifact : Artifact} {cache : ArtifactCache World}
      (loaded : system.cache.loadStored caller.key = (some artifact, cache)) :
      Move system caller (.loaded caller.key) { system with cache := cache.admit artifact }
        (.inside address (.done (.ok artifact)))
  | loadNothing {address : Nat} (stage : caller.stage = .inside address .missed)
      {cache : ArtifactCache World} (loaded : system.cache.loadStored caller.key = (none, cache)) :
      Move system caller .quiet { system with cache } (.inside address .unstored)
  | begin {address : Nat} (stage : caller.stage = .inside address .unstored) :
      Move system caller (.began caller.key)
        { system with activeCompiles := system.activeCompiles + 1 } (.inside address .compiling)
  | finish {address : Nat} (stage : caller.stage = .inside address .compiling) {now : Instant}
      {result : Except CompileError Artifact} {cache : ArtifactCache World}
      (compiled : system.cache.compileMissing caller.key caller.source caller.kernelNames now =
        (result, cache)) :
      Move system caller (.ended caller.key result)
        { system with cache, activeCompiles := system.activeCompiles - 1 }
        (.inside address (.done result))
  | release {address : Nat} {result : Except CompileError Artifact}
      (stage : caller.stage = .inside address (.done result)) :
      Move system caller .quiet { system with locks := system.locks.release address }
        (.released address result)
  | drop {address : Nat} {result : Except CompileError Artifact}
      (stage : caller.stage = .released address result) :
      Move system caller .quiet { system with locks := system.locks.drop address }
        (.dropped address result)
  | sweep {address : Nat} {result : Except CompileError Artifact}
      (stage : caller.stage = .dropped address result) :
      Move system caller .quiet { system with locks := system.locks.sweep caller.key address }
        (.answered result)

/-- A new request, a step of one request, or a call of another kind. -/
inductive Step (system : RequestSystem World) : RequestEvent World → RequestSystem World → Prop
  | arrive (source : String) (kernelNames : List String) :
      Step system .quiet { system with callers := system.callers ++
        [⟨system.cache.keyFor source, source, kernelNames, .arrived⟩] }
  | move {index : Nat} {caller : Caller} {event : RequestEvent World} {after : RequestSystem World}
      {stage : Stage} (acts : system.callers[index]? = some caller)
      (move : Move system caller event after stage) :
      Step system event
        { after with callers := system.callers.set index { caller with stage } }
  | other {command : CacheCommand World}
      (separate : ∀ source kernelNames now, command ≠ .compile source kernelNames now) :
      Step system (.other command) { system with cache := (system.cache.step command).2 }

/-- Some steps lead from a new cache without requests to the system. -/
inductive Reachable : RequestSystem World → Prop
  | create {capacity : Nat} {options : CompileOptions} {compiler : Compiler World} {world : World}
      {store : Option ArtifactStore} {cache : ArtifactCache World}
      (created : ArtifactCache.create capacity options compiler world store = .ok cache) :
      Reachable ⟨cache, .empty, 0, []⟩
  | step {system after : RequestSystem World} (reachable : Reachable system)
      {event : RequestEvent World} (step : Step system event after) : Reachable after

/-- Steps lead from one system to another. -/
inductive Leads : RequestSystem World → RequestSystem World → Prop
  | refl (system : RequestSystem World) : Leads system system
  | step {first second last : RequestSystem World} {event : RequestEvent World}
      (step : Step first event second) (rest : Leads second last) : Leads first last

end RequestSystem

namespace KeyLocks

/-- The lock of one key, or what is left of it. -/
def only (key : ArtifactKey) (lock : Option KeyLock) : KeyLocks where
  heap address := if address = 0 then lock else none
  table := [(key, 0)]

theorem change_only (key : ArtifactKey) (lock : KeyLock) (next : KeyLock → Option KeyLock) :
    (only key (some lock)).change 0 next = only key (next lock) := by
  refine congrArg (KeyLocks.mk · [(key, 0)]) ?_
  funext address
  by_cases here : address = 0 <;> simp [only, here]

theorem claim_only (key : ArtifactKey) (lock : KeyLock) (free : Nat) :
    (only key (some lock)).claim key free =
      (0, only key (some { lock with references := lock.references + 1 })) := by
  rw [← change_only key lock fun lock => some { lock with references := lock.references + 1 },
    claim, only, List.lookup_cons, beq_self_eq_true]

/-- A lock that one request claims, takes and gives up leaves nothing behind. -/
theorem used_alone (key : ArtifactKey) : ∃ claimed taken,
    empty.claim key 0 = (0, claimed) ∧ claimed.acquire? 0 = some taken ∧
      ((taken.release 0).drop 0).sweep key 0 = empty := by
  refine ⟨only key (some ⟨2, false⟩), only key (some ⟨2, true⟩), rfl,
    congrArg some (change_only key _ _), ?_⟩
  rw [release, change_only, drop, change_only, if_neg (by decide), sweep, only,
    List.lookup_cons, beq_self_eq_true]
  simp only [if_true, Option.map_some, and_self]
  rw [List.filter_cons_of_neg (by simp), drop]
  refine congrArg (KeyLocks.mk · []) ?_
  funext address
  by_cases here : address = 0 <;> simp [change, here]

end KeyLocks

namespace RequestSystem

variable {World : Type} {cache : ArtifactCache World} {locks : KeyLocks} {active : Nat}
  {caller : Caller} {last : RequestSystem World}

/-- A step of the only request. -/
theorem Leads.act {event : RequestEvent World} {after : RequestSystem World} {stage : Stage}
    (move : Move ⟨cache, locks, active, [caller]⟩ caller event after stage)
    (rest : Leads ⟨after.cache, after.locks, after.activeCompiles, [{ caller with stage }]⟩ last) :
    Leads ⟨cache, locks, active, [caller]⟩ last := by
  have acts : (RequestSystem.mk cache locks active [caller]).callers[0]? = some caller := rfl
  exact .step (.move acts move) rest

/-- The only request is answered as a request on the cache. -/
theorem alone_answered (cache : ArtifactCache World) (source : String) (kernelNames : List String)
    (now : Instant) :
    Leads ⟨cache, .empty, 0, []⟩ ⟨(cache.compileSource source kernelNames now).2, .empty, 0,
      [⟨cache.keyFor source, source, kernelNames,
        .answered (cache.compileSource source kernelNames now).1⟩]⟩ := by
  refine .step (.arrive source kernelNames) ?_
  rw [ArtifactCache.compileSource]
  cases found : cache.lookup (cache.keyFor source) with
  | some hit => exact .act (.hit rfl found) (.refl _)
  | none =>
      obtain ⟨claimed, taken, claims, takes, leaves⟩ := KeyLocks.used_alone (cache.keyFor source)
      refine .act (.miss rfl found) (.act (.claim rfl rfl claims) (.act (.acquire rfl takes)
        (.act (.missInside rfl found) ?_)))
      have leave (after : ArtifactCache World) (result : Except CompileError Artifact) :
          Leads ⟨after, taken, 0, [⟨cache.keyFor source, source, kernelNames,
              .inside 0 (.done result)⟩]⟩
            ⟨after, .empty, 0, [⟨cache.keyFor source, source, kernelNames, .answered result⟩]⟩ := by
        refine .act (.release rfl) (.act (.drop rfl) (.act (.sweep rfl) ?_))
        rw [← leaves]
        exact .refl _
      simp only [ArtifactCache.loadOrCompile, found]
      cases loaded : cache.loadStored (cache.keyFor source) with
      | mk answer quiet =>
          cases answer with
          | some artifact => exact .act (.load rfl loaded) (leave _ _)
          | none =>
              exact .act (.loadNothing rfl loaded) (.act (.begin rfl)
                (.act (.finish rfl rfl) (leave _ _)))

end RequestSystem

end DeviceKernels
