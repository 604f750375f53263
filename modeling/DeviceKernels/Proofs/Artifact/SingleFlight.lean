import DeviceKernels.Proofs.Artifact.KeyLocks
import DeviceKernels.Proofs.Artifact.Refinement
import DeviceKernels.Proofs.Artifact.Requests

/-
At most one request for a key is in the part that the lock of the key guards, the compiler is not
called again for a key that it was successful for as long as the key stays in memory, and when all
requests are answered no lock is left.
-/

namespace DeviceKernels

namespace ArtifactCache

variable {World : Type} {cache after : ArtifactCache World} {key : ArtifactKey}

theorem holds_iff : cache.holds key ↔ key ∈ cache.artifacts.map Artifact.key := by
  rw [holds, Option.isSome_iff_ne_none, ne_eq, find?_none, not_not, artifacts, List.map_map]
  rfl

/-- The keys of fewer artifacts are held already. -/
theorem holds_subset (fewer : after.artifacts ⊆ cache.artifacts) (held : after.holds key) :
    cache.holds key :=
  holds_iff.mpr (List.map_subset _ fewer (holds_iff.mp held))

theorem SameMemory.holds (same : SameMemory cache after) (key : ArtifactKey) :
    after.holds key = cache.holds key := by
  rw [ArtifactCache.holds, ArtifactCache.holds, find?, find?, same.entries]

theorem touch_holds (cache : ArtifactCache World) (touched key : ArtifactKey) :
    (cache.touch touched).holds key = cache.holds key := by
  rw [Bool.eq_iff_iff, holds_iff, holds_iff, touch_artifacts]

/-- To forget a key keeps the others. -/
theorem forget_holds {gone : ArtifactKey} (other : key ≠ gone) (held : cache.holds key) :
    (cache.forget gone).2.holds key := by
  have entries := forget_entries cache gone
  have found := Keyed.find?_filter_other CacheEntry.key cache.entries other
  rw [ArtifactCache.holds, find?, entries]
  exact (congrArg Option.isSome found).trans held

/-- A look into memory changes no key, and finds a key that is held. -/
theorem lookup_holds {artifact : Artifact} (found : cache.lookup key = some (artifact, after)) :
    SameMemory (cache.touch key) after ∧ cache.holds key := by
  rw [lookup] at found
  obtain ⟨entry, held, same⟩ := Option.map_eq_some_iff.mp found
  cases same
  exact ⟨.quiet (cache.touch key) _ _ _ rfl, Option.isSome_of_eq_some held⟩

theorem lookup_none (absent : cache.lookup key = none) : ¬cache.holds key := by
  rw [holds, Option.map_eq_none_iff.mp absent]
  exact Bool.false_ne_true

/-- A call that compiles nothing adds no artifact. -/
theorem step_artifacts {command : CacheCommand World}
    (separate : ∀ source kernelNames now, command ≠ .compile source kernelNames now) :
    (cache.step command).2.artifacts ⊆ cache.artifacts := by
  have quiet {after : ArtifactCache World} (same : SameMemory cache after) :
      after.artifacts ⊆ cache.artifacts := by
    rw [artifacts, artifacts, same.entries]
    exact List.Subset.refl _
  cases command with
  | compile source kernelNames now => exact absurd rfl (separate source kernelNames now)
  | kernel name =>
      rcases kernel_cases cache name with missed | ⟨key, entry, -, -, found⟩
      · simp only [step, missed]
        exact List.Subset.refl _
      · simp only [step, found, touch_artifacts]
        exact List.Subset.refl _
  | invalidate key =>
      have same := invalidate_forget cache key
      have forgotten := forget_artifacts cache key
      rwa [artifacts, ← same.entries] at forgotten
  | clearMemory => exact List.nil_subset _
  | purgeDisk => exact quiet (purgeDisk_sameMemory cache)
  | disturb world directory => exact quiet (disturb_sameMemory cache world directory)

/-- The memory of a cache is a list of keys that has room for one. -/
structure Roomy (cache : ArtifactCache World) : Prop where
  room : 0 < cache.capacity
  tracked : ∃ list, cache.Tracks list

namespace Roomy

theorem create {capacity : Nat} {options : CompileOptions} {compiler : Compiler World}
    {world : World} {store : Option ArtifactStore}
    (created : ArtifactCache.create capacity options compiler world store = .ok cache) :
    cache.Roomy := by
  obtain ⟨room, rfl⟩ := create_ok created
  exact ⟨room, .empty, .ofOrder (.empty 0) rfl (Nat.zero_le _) rfl⟩

theorem sameMemory (roomy : cache.Roomy) (same : SameMemory cache after) : after.Roomy := by
  obtain ⟨list, tracks⟩ := roomy.tracked
  exact ⟨same.capacity ▸ roomy.room, list, tracks.sameMemory same⟩

theorem touch (roomy : cache.Roomy) (held : cache.holds key) : (cache.touch key).Roomy := by
  obtain ⟨list, tracks⟩ := roomy.tracked
  obtain ⟨entry, found⟩ := Option.isSome_iff_exists.mp held
  obtain ⟨member, rfl⟩ := find?_some found
  exact ⟨roomy.room, _, tracks.touch member⟩

theorem step (roomy : cache.Roomy) (command : CacheCommand World) :
    (cache.step command).2.Roomy := by
  obtain ⟨list, tracks⟩ := roomy.tracked
  exact ⟨(step_settings cache command).capacity ▸ roomy.room, _, tracks.step command⟩

/-- An insertion of a new key holds it. -/
theorem insert (roomy : cache.Roomy) {artifact : Artifact} (absent : ¬cache.holds artifact.key) :
    (cache.insert artifact).Roomy ∧ (cache.insert artifact).holds artifact.key := by
  obtain ⟨list, tracks⟩ := roomy.tracked
  have fresh : artifact.key ∉ list.keys := by
    rw [← tracks.refines.holds]
    exact absent
  have after := tracks.insert fresh
  refine ⟨⟨(insert_settings cache artifact).capacity ▸ roomy.room, _, after⟩, ?_⟩
  rw [after.refines.holds, RecencyList.push]
  obtain ⟨capacity, room⟩ := Nat.exists_eq_add_of_lt roomy.room
  rw [room, Nat.zero_add, List.take_succ_cons]
  exact List.mem_cons_self

end Roomy

end ArtifactCache

namespace Stage

/-- Whether a request holds its lock and has found that its key is not in memory. -/
def misses : Stage → Bool
  | inside _ .missed => true
  | inside _ .unstored => true
  | inside _ .compiling => true
  | _ => false

def compiles : Stage → Bool
  | inside _ .compiling => true
  | _ => false

/-- What a request has of the lock of its key. -/
def grip : Stage → Grip
  | arrived => .free
  | missed => .free
  | waiting lock => .reference lock
  | inside lock _ => .guard lock
  | released lock _ => .reference lock
  | dropped lock _ => .stale lock
  | answered _ => .free

end Stage

def Caller.hold (caller : Caller) : Hold := ⟨caller.key, caller.stage.grip⟩

/-- Whether a request is in the part that its lock guards. -/
def Caller.IsInside (caller : Caller) : Prop := ∃ lock work, caller.stage = .inside lock work

namespace RequestSystem

open ArtifactCache

variable {World : Type} {system after : RequestSystem World} {event : RequestEvent World}
  {caller : Caller} {stage : Stage} {index : Nat} {key : ArtifactKey}

/-- A step of a request keeps the locks sound. -/
theorem Move.locked (move : Move system caller event after stage)
    (acts : system.callers[index]? = some caller)
    (sound : system.locks.Sound (system.callers.map Caller.hold)) :
    after.locks.Sound ((system.callers.set index { caller with stage }).map Caller.hold) := by
  rw [List.map_set]
  have here : (system.callers.map Caller.hold)[index]? = some ⟨caller.key, caller.stage.grip⟩ := by
    rw [List.getElem?_map, acts]
    rfl
  have still (same : stage.grip = caller.stage.grip) : system.locks.Sound
      ((system.callers.map Caller.hold).set index ⟨caller.key, stage.grip⟩) := by
    rwa [same, Exchange.set_same here]
  cases move with
  | hit arrived found => exact still (by rw [arrived]; rfl)
  | miss arrived absent => exact still (by rw [arrived]; rfl)
  | claim missed unused claimed =>
      rw [missed] at here
      exact sound.claim here unused claimed
  | acquire waiting acquired =>
      rw [waiting] at here
      exact sound.acquire here acquired
  | hitInside entered found => exact still (by rw [entered]; rfl)
  | missInside entered absent => exact still (by rw [entered]; rfl)
  | load missed loaded => exact still (by rw [missed]; rfl)
  | loadNothing missed loaded => exact still (by rw [missed]; rfl)
  | begin unstored => exact still (by rw [unstored]; rfl)
  | finish compiling compiled => exact still (by rw [compiling]; rfl)
  | release done =>
      rw [done] at here
      exact sound.release here
  | drop released =>
      rw [released] at here
      exact sound.drop here
  | sweep dropped =>
      rw [dropped] at here
      exact sound.sweep here

/-- A step of a request counts the compilations under way. -/
theorem Move.active (move : Move system caller event after stage)
    (counted : (caller.stage.compiles).toNat ≤ system.activeCompiles) :
    after.activeCompiles + caller.stage.compiles.toNat =
      system.activeCompiles + stage.compiles.toNat := by
  cases move with
  | finish compiling compiled =>
      rw [compiling] at counted ⊢
      exact Nat.sub_add_cancel counted
  | _ => simp_all [Stage.compiles]

/-- What a step of a request does to memory: nothing but to mark a use, or the insertion of an
artifact of its key, which it may do only inside. -/
inductive MemoryEffect (system : RequestSystem World) (caller : Caller) :
    RequestEvent World → RequestSystem World → Stage → Prop
  | same {event : RequestEvent World} {after : RequestSystem World} {stage : Stage}
      (roomy : after.cache.Roomy) (holds : ∀ key, after.cache.holds key = system.cache.holds key)
      (unsuccessful : ∀ key artifact, event ≠ .ended key (.ok artifact))
      (absent : stage.misses → ¬system.cache.holds caller.key) :
      MemoryEffect system caller event after stage
  | insert {event : RequestEvent World} {after : RequestSystem World} {stage : Stage}
      {quiet : ArtifactCache World} {artifact : Artifact} (memory : SameMemory system.cache quiet)
      (missing : ¬system.cache.holds caller.key) (own : artifact.key = caller.key)
      (inserted : after.cache = quiet.insert artifact)
      (inside : caller.IsInside) (left : ¬stage.misses)
      (told : event = .loaded caller.key ∨ event = .ended caller.key (.ok artifact)) :
      MemoryEffect system caller event after stage

/-- Every step of a request does one of these. -/
theorem Move.effect (move : Move system caller event after stage) (roomy : system.cache.Roomy)
    (absent : caller.stage.misses → ¬system.cache.holds caller.key) :
    MemoryEffect system caller event after stage := by
  have found {artifact : Artifact} {cache : ArtifactCache World}
      (hit : system.cache.lookup caller.key = some (artifact, cache)) :
      cache.Roomy ∧ ∀ key, cache.holds key = system.cache.holds key := by
    obtain ⟨same, held⟩ := lookup_holds hit
    exact ⟨(roomy.touch held).sameMemory same,
      fun key => (same.holds key).trans (touch_holds system.cache caller.key key)⟩
  cases move with
  | hit arrived hit => exact .same (found hit).1 (found hit).2 (by simp) (by simp [Stage.misses])
  | hitInside entered hit =>
      exact .same (found hit).1 (found hit).2 (by simp) (by simp [Stage.misses])
  | missInside entered missing =>
      exact .same roomy (fun _ => rfl) (by simp) fun _ => lookup_none missing
  | load missed loaded =>
      obtain ⟨answer, quiet, looked, same, stems⟩ := loadStored_cases system.cache caller.key
      rw [loaded] at looked
      cases looked
      refine .insert (same.trans ?_) (absent ?_) (stems _ rfl) rfl ⟨_, _, missed⟩
        (by simp [Stage.misses]) (.inl rfl)
      · exact .quiet _ _ _ _ rfl
      · rw [missed]
        rfl
  | loadNothing missed loaded =>
      obtain ⟨answer, quiet, looked, same, -⟩ := loadStored_cases system.cache caller.key
      rw [loaded] at looked
      cases looked
      refine .same (roomy.sameMemory same) same.holds (by simp) fun _ => absent ?_
      rw [missed]
      rfl
  | begin unstored =>
      refine .same roomy (fun _ => rfl) (by simp) fun _ => absent ?_
      rw [unstored]
      rfl
  | @finish address compiling now result cache compiled =>
      obtain ⟨quiet, same, ⟨error, failed⟩ | ⟨artifact, own, done⟩⟩ :=
        compileMissing_cases system.cache caller.key caller.source caller.kernelNames now
      · rw [compiled] at failed
        cases failed
        exact .same (roomy.sameMemory same) same.holds (by simp) (by simp [Stage.misses])
      · rw [compiled] at done
        cases done
        refine .insert same (absent ?_) own rfl ⟨_, _, compiling⟩ (by simp [Stage.misses])
          (.inr rfl)
        rw [compiling]
        rfl
  | _ => exact .same roomy (fun _ => rfl) (by simp) (by simp [Stage.misses])

/-- The requests of a system keep the order of their keys. -/
structure Orderly (system : RequestSystem World) : Prop where
  locked : system.locks.Sound (system.callers.map Caller.hold)
  active : system.activeCompiles = system.callers.countP fun caller => caller.stage.compiles
  roomy : system.cache.Roomy
  /-- A request that has missed its key misses it until it has an answer. -/
  absent : ∀ (index : Nat) (caller : Caller), system.callers[index]? = some caller →
    caller.stage.misses → ¬system.cache.holds caller.key

namespace Orderly

/-- At most one request is inside for a key. -/
theorem exclusive (orderly : system.Orderly) {first second : Nat} {one two : Caller}
    (firstThere : system.callers[first]? = some one)
    (secondThere : system.callers[second]? = some two) (oneInside : one.IsInside)
    (twoInside : two.IsInside) (same : one.key = two.key) : first = second := by
  obtain ⟨oneLock, oneWork, oneStage⟩ := oneInside
  obtain ⟨twoLock, twoWork, twoStage⟩ := twoInside
  have oneHolds : (system.callers.map Caller.hold)[first]? = some ⟨one.key, .guard oneLock⟩ := by
    rw [List.getElem?_map, firstThere, Option.map_some, Caller.hold, oneStage]
    rfl
  have twoHolds : (system.callers.map Caller.hold)[second]? = some ⟨one.key, .guard twoLock⟩ := by
    rw [List.getElem?_map, secondThere, Option.map_some, Caller.hold, twoStage, same]
    rfl
  exact orderly.locked.exclusive oneHolds twoHolds

theorem isInside {caller : Caller} (misses : caller.stage.misses) : caller.IsInside := by
  rw [Caller.IsInside]
  cases stage : caller.stage with
  | inside lock work => exact ⟨lock, work, rfl⟩
  | _ =>
      rw [stage] at misses
      cases misses

/-- After a step of a request, whoever misses a key still misses it. -/
theorem move_absent (orderly : system.Orderly) (acts : system.callers[index]? = some caller)
    (move : Move system caller event after stage) :
    ∀ (place : Nat) (other : Caller),
      (system.callers.set index { caller with stage })[place]? = some other →
        other.stage.misses → ¬after.cache.holds other.key := by
  intro place other there misses
  have effect := move.effect orderly.roomy (orderly.absent index caller acts)
  by_cases moved : index = place
  · rw [← moved, List.getElem?_set_self (List.getElem?_eq_some_iff.mp acts).1] at there
    cases there
    cases effect with
    | same roomy holds unsuccessful absent =>
        rw [holds]
        exact absent misses
    | insert memory missing own inserted inside left => exact absurd misses left
  · rw [List.getElem?_set_ne moved] at there
    have missed := orderly.absent place other there misses
    cases effect with
    | same roomy holds unsuccessful absent =>
        rw [holds]
        exact missed
    | @insert quiet artifact memory missing own inserted inside =>
        intro held
        rw [inserted, holds_iff] at held
        obtain ⟨holder, member, sameKey⟩ := List.mem_map.mp held
        rcases List.mem_cons.mp (insert_artifacts quiet artifact member) with rfl | before
        · rw [own] at sameKey
          exact moved (orderly.exclusive acts there inside (isInside misses) sameKey)
        · refine missed ?_
          rw [← memory.holds, holds_iff, ← sameKey]
          exact List.mem_map_of_mem before

theorem move (orderly : system.Orderly) (acts : system.callers[index]? = some caller)
    (move : Move system caller event after stage) :
    Orderly { after with callers := system.callers.set index { caller with stage } } where
  locked := move.locked acts orderly.locked
  active := by
    have counted := Exchange.countP_set acts { caller with stage } fun caller : Caller =>
      caller.stage.compiles
    have atMost : caller.stage.compiles.toNat ≤ system.activeCompiles := by
      rw [orderly.active]
      cases compiles : caller.stage.compiles with
      | false => exact Nat.zero_le _
      | true => exact List.countP_pos_iff.mpr ⟨caller, List.mem_of_getElem? acts, compiles⟩
    have active := move.active atMost
    have before := orderly.active
    dsimp only at counted ⊢
    omega
  roomy := by
    cases move.effect orderly.roomy (orderly.absent index caller acts) with
    | same roomy => exact roomy
    | insert memory missing own inserted =>
        rw [← own, ← memory.holds] at missing
        rw [inserted]
        exact ((orderly.roomy.sameMemory memory).insert missing).1
  absent := by
    have absent := orderly.move_absent acts move
    exact absent

theorem step (orderly : system.Orderly) (step : Step system event after) : after.Orderly := by
  cases step with
  | arrive source kernelNames =>
      refine ⟨?_, ?_, orderly.roomy, ?_⟩
      · rw [List.map_append]
        exact orderly.locked.arrive _
      · rw [List.countP_append, ← orderly.active]
        rfl
      · intro index caller there misses
        rw [List.getElem?_append] at there
        split at there
        · exact orderly.absent index caller there misses
        · rw [List.mem_singleton.mp (List.mem_of_getElem? there)] at misses
          cases misses
  | move acts move => exact orderly.move acts move
  | other separate =>
      refine ⟨orderly.locked, orderly.active, orderly.roomy.step _, ?_⟩
      intro index caller there misses held
      exact orderly.absent index caller there misses (holds_subset (step_artifacts separate) held)

end Orderly

theorem reachable_orderly (reachable : system.Reachable) : system.Orderly := by
  induction reachable with
  | create created => exact ⟨.empty, rfl, .create created, by simp⟩
  | step reachable step ih => exact ih.step step

end RequestSystem

/-- Whether a step calls the compiler for a key or is the end of such a call. -/
def RequestEvent.Compiles {World : Type} (key : ArtifactKey) : RequestEvent World → Prop
  | began compiled => compiled = key
  | ended compiled _ => compiled = key
  | _ => False

namespace RequestSystem

open ArtifactCache

variable {World : Type} {system after : RequestSystem World} {event : RequestEvent World}
  {key : ArtifactKey}

/-- Whether a step evicts, invalidates or clears a key. -/
def Loses (key : ArtifactKey) (system : RequestSystem World) (event : RequestEvent World)
    (after : RequestSystem World) : Prop :=
  match event with
  | .loaded _ => system.cache.holds key ∧ ¬after.cache.holds key
  | .ended _ _ => system.cache.holds key ∧ ¬after.cache.holds key
  | .other (.invalidate gone) => gone = key
  | .other .clearMemory => True
  | _ => False

/-- Steps that do not lose a key lead from one system to another. -/
inductive Keeps (key : ArtifactKey) : RequestSystem World → RequestSystem World → Prop
  | refl (system : RequestSystem World) : Keeps key system system
  | step {first second last : RequestSystem World} {event : RequestEvent World}
      (step : Step first event second) (kept : ¬Loses key first event second)
      (rest : Keeps key second last) : Keeps key first last

namespace Orderly

/-- A step that does not lose a key keeps it in memory. -/
theorem step_holds (orderly : system.Orderly) (step : Step system event after)
    (kept : ¬Loses key system event after) (held : system.cache.holds key) :
    after.cache.holds key := by
  cases step with
  | arrive source kernelNames => exact held
  | @move index caller _ _ stage acts move =>
      cases move.effect orderly.roomy (orderly.absent index caller acts) with
      | same roomy holds => exact (holds key).trans held
      | insert memory missing own inserted inside left told =>
          by_contra lost
          rcases told with rfl | rfl <;> exact kept ⟨held, lost⟩
  | @other command separate =>
      cases command with
      | compile source kernelNames now => exact absurd rfl (separate source kernelNames now)
      | kernel name =>
          rcases kernel_cases system.cache name with missed | ⟨used, entry, -, -, found⟩
          · simpa only [ArtifactCache.step, missed] using held
          · simpa only [ArtifactCache.step, found, touch_holds] using held
      | invalidate gone =>
          have forgotten := forget_holds (fun same => kept (Eq.symm same)) held
          exact ((invalidate_forget system.cache gone).holds key).trans forgotten
      | clearMemory => exact absurd trivial kept
      | purgeDisk => exact ((purgeDisk_sameMemory system.cache).holds key).trans held
      | disturb world directory =>
          exact ((disturb_sameMemory system.cache world directory).holds key).trans held

theorem keeps_holds {later : RequestSystem World} (keeps : Keeps key system later)
    (orderly : system.Orderly) (held : system.cache.holds key) :
    later.Orderly ∧ later.cache.holds key := by
  induction keeps with
  | refl system => exact ⟨orderly, held⟩
  | step step kept rest ih => exact ih (orderly.step step) (orderly.step_holds step kept held)

/-- A compilation that was successful leaves its key in memory. -/
theorem ended_holds (orderly : system.Orderly) {artifact : Artifact}
    (step : Step system (.ended key (.ok artifact)) after) : after.cache.holds key := by
  cases step with
  | @move index caller _ _ stage acts move =>
      cases move.effect orderly.roomy (orderly.absent index caller acts) with
      | same roomy holds unsuccessful => exact absurd rfl (unsuccessful key artifact)
      | insert memory missing own inserted inside left told =>
          rw [← own, ← memory.holds] at missing
          have held := ((orderly.roomy.sameMemory memory).insert missing).2
          rcases told with other | same
          · cases other
          · cases same
            rw [← own]
            exact inserted ▸ held

/-- While a key is in memory no step compiles it. -/
theorem held_not_compiled (orderly : system.Orderly) (held : system.cache.holds key)
    (step : Step system event after) : ¬event.Compiles key := by
  intro compiles
  cases step with
  | arrive source kernelNames => exact compiles
  | other separate => exact compiles
  | @move index caller _ _ stage acts move =>
      have absent := orderly.absent index caller acts
      cases move with
      | begin unstored =>
          rw [unstored] at absent
          exact absent rfl (compiles ▸ held)
      | finish compiling compiled =>
          rw [compiling] at absent
          exact absent rfl (compiles ▸ held)
      | _ => exact compiles

/-- When all requests are answered there is no lock and no compilation. -/
theorem idle (orderly : system.Orderly)
    (answered : ∀ caller ∈ system.callers, ∃ result, caller.stage = .answered result) :
    system.locks.table = [] ∧ system.activeCompiles = 0 := by
  constructor
  · refine orderly.locked.idle fun hold member => ?_
    obtain ⟨caller, present, rfl⟩ := List.mem_map.mp member
    obtain ⟨result, stage⟩ := answered caller present
    rw [Caller.hold, stage]
    rfl
  · rw [orderly.active, List.countP_eq_zero]
    intro caller present
    obtain ⟨result, stage⟩ := answered caller present
    rw [stage]
    exact Bool.false_ne_true

end Orderly

/-- What holds of every system of requests. -/
structure SingleFlight (system : RequestSystem World) : Prop where
  /-- At most one request is inside for a key. -/
  exclusive : ∀ (first second : Nat) (one two : Caller), system.callers[first]? = some one →
    system.callers[second]? = some two → one.IsInside → two.IsInside → one.key = two.key →
      first = second
  /-- After a successful compilation the compiler is not called for the key before it is lost. -/
  compiledOnce : ∀ (key : ArtifactKey) (artifact : Artifact) (after later final : RequestSystem World)
    (event : RequestEvent World), Step system (.ended key (.ok artifact)) after →
      Keeps key after later → Step later event final → ¬event.Compiles key
  /-- When all requests are answered there is no lock and no compilation. -/
  idle : (∀ caller ∈ system.callers, ∃ result, caller.stage = .answered result) →
    system.locks.table = [] ∧ system.activeCompiles = 0

theorem reachable_singleFlight (reachable : system.Reachable) : system.SingleFlight := by
  have orderly := reachable_orderly reachable
  refine ⟨fun first second one two => orderly.exclusive, ?_, orderly.idle⟩
  intro key artifact after later final event ended keeps next
  obtain ⟨laterOrderly, held⟩ := Orderly.keeps_holds keeps (orderly.step ended)
    (orderly.ended_holds ended)
  exact laterOrderly.held_not_compiled held next

/-- A second request of a key waits while the first one compiles. -/
theorem reachable_singleFlight_contended : ∃ system : RequestSystem Unit, system.Reachable ∧
    system.callers.map Caller.stage = [.inside 0 .compiling, .waiting 0] ∧
      system.SingleFlight := by
  let key := ArtifactKey.compute "a" .standard Compiler.echo.name
  have created : create 1 .standard .echo () none = .ok _ := rfl
  have arrived := ((Reachable.create created).step (.arrive "a" ["f"])).step (.arrive "a" ["f"])
  have first (one two : Caller) : [one, two][0]? = some one := rfl
  have second (one two : Caller) : [one, two][1]? = some two := rfl
  have missed := (arrived.step (.move (first _ _) (.miss rfl rfl))).step
    (.move (second _ _) (.miss rfl rfl))
  have made : KeyLocks.empty.claim key 0 = (0, KeyLocks.only key (some ⟨2, false⟩)) := rfl
  have claimed := (missed.step (.move (first _ _) (.claim rfl (rfl : KeyLocks.empty.heap 0 = none)
    made))).step (.move (second _ _) (.claim rfl (rfl : (KeyLocks.only key _).heap 1 = none)
      (KeyLocks.claim_only key _ _)))
  have acquired := claimed.step (.move (first _ _) (.acquire rfl rfl))
  have began := ((acquired.step (.move (first _ _) (.missInside rfl rfl))).step
    (.move (first _ _) (.loadNothing rfl rfl))).step (.move (first _ _) (.begin rfl))
  exact ⟨_, began, rfl, reachable_singleFlight began⟩

end RequestSystem

end DeviceKernels
