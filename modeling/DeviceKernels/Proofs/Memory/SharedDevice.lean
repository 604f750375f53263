import DeviceKernels.Proofs.Memory.Lending
import DeviceKernels.Proofs.Memory.Trimming

/-
A device that a pool shares with others. They get memory of the device, write to it and give it
back as they like. The pool stays until its manager was dropped and its last buffer came back, and
then gives all of its segments up.
-/

namespace DeviceKernels

/-- What happens on a device: a call of the program that uses the pool, the end of the manager of
the pool, or a call of another user. -/
inductive DeviceCommand where
  | pool (command : PoolCommand)
  | leave
  | take (size : Nat)
  | yield (base : Nat)
  | put (address : Nat) (bytes : Bytes)
  deriving DecidableEq, Repr

/-- The calls on the manager of a pool. The others are calls on buffers. -/
def PoolCommand.needsManager : PoolCommand → Bool
  | create _ | allocate _ | trim => true
  | drop _ | write _ _ | read _ _ => false

/-- The memory after a write, which may be refused. -/
def HostMemory.put (memory : HostMemory) (address : Nat) (bytes : Bytes) : HostMemory :=
  match memory.write address bytes with
  | .ok written => written
  | .error _ => memory

/-- A pool in use, whether its manager is still there, and the segments of the other users. -/
structure Tenancy where
  history : PoolHistory
  managed : Bool
  others : List Segment
  deriving DecidableEq, Repr

/-- A device without a pool and with one. -/
inductive SharedDevice where
  | vacant (memory : HostMemory)
  | occupied (tenancy : Tenancy)
  deriving DecidableEq, Repr

namespace Tenancy

/-- The pool over another state of its device, with other segments in the hands of others. -/
def rehouse (tenancy : Tenancy) (device : HostMemory) (others : List Segment) : Tenancy :=
  { tenancy with
    history := { tenancy.history with pool := { tenancy.history.pool with device } }
    others }

/-- The pool ends with its manager and its last buffer. -/
def settle (tenancy : Tenancy) : SharedDevice :=
  if !tenancy.managed && tenancy.history.loans.isEmpty then
    .vacant tenancy.history.pool.close.device
  else .occupied tenancy

/-- One call. Another user gives back only what is its own. -/
def step (tenancy : Tenancy) : DeviceCommand → SharedDevice
  | .pool command =>
      if command.needsManager && !tenancy.managed then .occupied tenancy
      else settle { tenancy with history := tenancy.history.step command }
  | .leave => settle { tenancy with managed := false }
  | .take size =>
      match tenancy.history.pool.device.allocate size with
      | (.error _, device) => .occupied (tenancy.rehouse device tenancy.others)
      | (.ok segment, device) => .occupied (tenancy.rehouse device (tenancy.others ++ [segment]))
  | .yield base =>
      if base ∈ tenancy.others.map Segment.base then
        .occupied (tenancy.rehouse (tenancy.history.pool.device.release base).2
          (tenancy.others.filter fun segment => segment.base != base))
      else .occupied tenancy
  | .put address bytes =>
      .occupied (tenancy.rehouse (tenancy.history.pool.device.put address bytes) tenancy.others)

end Tenancy

namespace SharedDevice

def step : SharedDevice → DeviceCommand → SharedDevice
  | vacant memory, .pool (.create config) =>
      match Pool.create memory config with
      | (.error _, pool) => vacant pool.device
      | (.ok (), pool) => occupied ⟨.begin pool, true, memory.ranges⟩
  | vacant memory, .pool _ => vacant memory
  | vacant memory, .leave => vacant memory
  | vacant memory, .take size => vacant (memory.allocate size).2
  | vacant memory, .yield base => vacant (memory.release base).2
  | vacant memory, .put address bytes => vacant (memory.put address bytes)
  | occupied tenancy, command => tenancy.step command

def run (device : SharedDevice) (commands : List DeviceCommand) : SharedDevice :=
  commands.foldl step device

end SharedDevice

/-- Some calls over a fresh device lead to the pool in use. -/
def Tenancy.Reachable (tenancy : Tenancy) : Prop :=
  ∃ capacity index commands,
    (SharedDevice.vacant (.create capacity index)).run commands = .occupied tenancy

namespace HostMemory

variable {memory : HostMemory}

/-- A memory after a write is well formed and has the same ranges. -/
theorem put_wellFormed (wellFormed : memory.WellFormed) (address : Nat) (bytes : Bytes) :
    (memory.put address bytes).WellFormed ∧ (memory.put address bytes).ranges = memory.ranges := by
  rw [put]
  rcases memory.write_cases address bytes with ⟨error, refused⟩ | ⟨base, offset, done⟩
  · rw [refused]
    exact ⟨wellFormed, rfl⟩
  · rw [done]
    exact ⟨wellFormed.patch base offset bytes, ranges_patch memory base offset bytes⟩

end HostMemory

namespace Pool.Housed

variable {pool : Pool HostMemory} {others : List Segment}

/-- The device gives another user a fresh segment. -/
theorem take (housed : Housed others pool) {size : Nat} (positive : 0 < size)
    (room : pool.device.allocatedBytes + size ≤ pool.device.capacity) :
    Housed (others ++ [⟨pool.device.nextAddress, size⟩])
      { pool with device := pool.device.extend size } where
  device := housed.device.extend positive room
  shares := by
    rw [HostMemory.ranges_extend, ← List.append_assoc]
    exact housed.shares.append_right _
  partition := housed.partition
  reserved := housed.reserved
  bounded := housed.bounded
  used := housed.used

/-- The device takes a segment of another user back. -/
theorem yield (housed : Housed others pool) {base : Nat} (member : base ∈ others.map Segment.base) :
    Housed (others.filter fun segment => segment.base != base)
      { pool with device := (pool.device.release base).2 } := by
  obtain ⟨segment, segmentMember, rfl⟩ := List.mem_map.mp member
  have there := housed.shares.mem_iff.mpr (List.mem_append_right pool.segments segmentMember)
  obtain ⟨allocation, allocationMember, rfl⟩ := List.mem_map.mp there
  have released : pool.device.release allocation.segment.base =
      (.ok (), pool.device.remove allocation) :=
    HostMemory.release_base housed.device allocationMember
  have apart : allocation.segment.base ∉ pool.segments.map Segment.base := by
    intro taken
    obtain ⟨own, ownMember, same⟩ := List.mem_map.mp taken
    rw [← same] at member
    exact housed.others_apart ownMember member
  rw [released]
  refine ⟨housed.device.remove allocationMember, ?_, housed.partition, housed.reserved,
    housed.bounded, housed.used⟩
  have kept := housed.shares.filter fun other => other.base != allocation.segment.base
  rw [List.filter_append, Keyed.filter_absent Segment.base apart] at kept
  rw [HostMemory.ranges_remove]
  exact kept

/-- Another user writes wherever it wants. -/
theorem put (housed : Housed others pool) (address : Nat) (bytes : Bytes) :
    Housed others { pool with device := pool.device.put address bytes } where
  device := (HostMemory.put_wellFormed housed.device address bytes).1
  shares := by
    rw [(HostMemory.put_wellFormed housed.device address bytes).2]
    exact housed.shares
  partition := housed.partition
  reserved := housed.reserved
  bounded := housed.bounded
  used := housed.used

end Pool.Housed

/-- Every call on a pool leaves its free list tidy. -/
theorem PoolHistory.Lending.step_tidy {history : PoolHistory} {others : List Segment}
    (lending : history.Lending others) (tidy : Tidy history.pool.free) (command : PoolCommand) :
    Tidy (history.step command).pool.free := by
  have advances := step_advances lending.housed command
  generalize history.step command = after at advances ⊢
  cases advances with
  | idle => exact tidy
  | restock restocks => exact restocks.tidy lending.housed tidy
  | lend restocks positive fit =>
      have stocked := restocks.housed lending.housed
      have within := Number.leRoundUp (show 0 < Pool.alignment by decide)
      exact Pool.carve_tidy stocked (restocks.tidy lending.housed tidy) (Pool.bestFit?_some fit).1
        (positive.trans_le (within _))
  | drop member =>
      obtain ⟨block, blockMember, address, -⟩ := lending.backed _ member
      rw [PoolHistory.drop, lending.giveBack_live blockMember address]
      exact Pool.retire_tidy lending.housed tidy blockMember
  | @write loan bytes =>
      rw [PoolHistory.write]
      rcases history.pool.write_cases loan.buffer bytes with ⟨error, refused⟩ | ⟨base, offset, done⟩
      · rw [refused]
        exact tidy
      · rw [done]
        exact tidy

/-- The loans are in order, the free list is tidy, and somebody still needs the pool. -/
structure Tenancy.Sound (tenancy : Tenancy) : Prop where
  lending : tenancy.history.Lending tenancy.others
  tidy : Tidy tenancy.history.pool.free
  needed : tenancy.managed = true ∨ tenancy.history.loans ≠ []

/-- What holds of a device after any calls. -/
def SharedDevice.Sound : SharedDevice → Prop
  | vacant memory => memory.WellFormed
  | occupied tenancy => tenancy.Sound

namespace Tenancy

variable {tenancy : Tenancy}

end Tenancy

namespace SharedDevice

end SharedDevice

/-- A device that only the pool uses. -/
def PoolSite.shared : PoolSite → SharedDevice
  | vacant memory => .vacant memory
  | occupied history => .occupied ⟨history, true, []⟩

/-- A call on a device that only the pool uses. -/
theorem PoolSite.shared_step (site : PoolSite) (command : PoolCommand)
    (fresh : ∀ memory, site = vacant memory → memory.ranges = []) :
    (site.step command).shared = site.shared.step (.pool command) := by
  cases site with
  | vacant memory =>
      cases command
      case create config =>
        have empty := fresh memory rfl
        simp only [step, shared, SharedDevice.step]
        rcases Pool.create_cases memory config with ⟨error, skipped, failed⟩ | ⟨pool, created, -⟩
        · rw [failed]
        · rw [created, empty]
      all_goals rfl
  | occupied history => simp [step, shared, SharedDevice.step, Tenancy.step, Tenancy.settle]

/-- Calls on a fresh device that only the pool uses. -/
theorem PoolSite.shared_run (capacity index : Nat) (commands : List PoolCommand) :
    ((vacant (.create capacity index)).run commands).shared =
      (SharedDevice.vacant (.create capacity index)).run (commands.map .pool) := by
  induction commands using List.reverseRecOn with
  | nil => rfl
  | append_singleton commands last ih =>
      rw [run_concat, shared_step, ih]
      · simp [SharedDevice.run]
      -- As long as there is no pool the device is the fresh one.
      · intro memory stays
        exact (run_vacant (HostMemory.create_wellFormed capacity index) stays).2

/-- A pool that has its device to itself is one without others. -/
theorem PoolHistory.Reachable.shared {history : PoolHistory} (reachable : history.Reachable) :
    Tenancy.Reachable ⟨history, true, []⟩ := by
  obtain ⟨capacity, index, commands, reached⟩ := reachable
  refine ⟨capacity, index, commands.map .pool, ?_⟩
  rw [← PoolSite.shared_run, reached]
  rfl

end DeviceKernels
