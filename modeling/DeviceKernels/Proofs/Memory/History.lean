import DeviceKernels.Proofs.Memory.Restocking

/-
A site is the memory of one device, on which a pool is created at most once; the history of the
pool remembers what the pool itself forgets: the buffers that are still lent, the bytes written
through each of them, and how many bytes were in use after every call.
-/

namespace DeviceKernels

/-- A buffer that is lent, with the bytes written through it, the last ones first. -/
structure Loan where
  number : Nat
  buffer : Buffer
  written : List Bytes
  deriving DecidableEq, Repr

/-- The byte last written at a position. Every write begins at the start of the buffer. -/
def Loan.lastWritten (loan : Loan) (position : Nat) : Option UInt8 :=
  loan.written.findSome? fun bytes => bytes[position]?

/-- The loan after a write, if it is the one written through. -/
def Loan.noting (number : Nat) (bytes : Bytes) (loan : Loan) : Loan :=
  if loan.number == number then { loan with written := bytes :: loan.written } else loan

@[simp] theorem Loan.noting_number (number : Nat) (bytes : Bytes) (loan : Loan) :
    (loan.noting number bytes).number = loan.number := by
  rw [noting]
  split <;> rfl

@[simp] theorem Loan.noting_buffer (number : Nat) (bytes : Bytes) (loan : Loan) :
    (loan.noting number bytes).buffer = loan.buffer := by
  rw [noting]
  split <;> rfl

/-- A pool and what was done with it. -/
structure PoolHistory where
  pool : Pool HostMemory
  loans : List Loan
  /-- How many buffers were lent, and so the number of the next one. -/
  lent : Nat
  /-- How many buffers came back. -/
  returned : Nat
  /-- The used bytes at the beginning and after every call. -/
  levels : List Nat
  deriving DecidableEq, Repr

/-- The calls of a program that uses one pool. Buffers go by the numbers of their loans. -/
inductive PoolCommand where
  | create (config : PoolConfig)
  | allocate (size : Nat)
  | drop (number : Nat)
  | trim
  | write (number : Nat) (bytes : Bytes)
  | read (number length : Nat)
  deriving DecidableEq, Repr

namespace PoolHistory

def begin (pool : Pool HostMemory) : PoolHistory := ⟨pool, [], 0, 0, [pool.used]⟩

def loan? (history : PoolHistory) (number : Nat) : Option Loan :=
  history.loans.find? fun loan => loan.number == number

/-- The history after a call that left a pool. -/
def record (history : PoolHistory) (pool : Pool HostMemory) : PoolHistory :=
  { history with pool, levels := pool.used :: history.levels }

def allocate (history : PoolHistory) (size : Nat) : PoolHistory :=
  match history.pool.allocate size with
  | (.error _, pool) => history.record pool
  | (.ok buffer, pool) =>
      { history.record pool with
        loans := ⟨history.lent, buffer, []⟩ :: history.loans
        lent := history.lent + 1 }

def drop (history : PoolHistory) (loan : Loan) : PoolHistory :=
  { history.record (history.pool.giveBack loan.buffer) with
    loans := history.loans.filter fun other => other.number != loan.number
    returned := history.returned + 1 }

def write (history : PoolHistory) (loan : Loan) (bytes : Bytes) : PoolHistory :=
  match history.pool.write loan.buffer bytes with
  | .error _ => history
  | .ok pool =>
      { history.record pool with
        loans := history.loans.map (Loan.noting loan.number bytes) }

/-- One call. A number that no loan has stands for no call. -/
def step (history : PoolHistory) : PoolCommand → PoolHistory
  | .create _ => history
  | .allocate size => history.allocate size
  | .drop number => (history.loan? number).elim history history.drop
  | .trim => history.record history.pool.trim.2
  | .write number bytes =>
      (history.loan? number).elim history fun loan => history.write loan bytes
  | .read _ _ => history

end PoolHistory

/-- The memory of a device, before and after a pool was created over it. -/
inductive PoolSite where
  | vacant (memory : HostMemory)
  | occupied (history : PoolHistory)
  deriving DecidableEq, Repr

namespace PoolSite

/-- One call. Only a creation means something before there is a pool, and it may fail. -/
def step : PoolSite → PoolCommand → PoolSite
  | vacant memory, .create config =>
      match Pool.create memory config with
      | (.error _, pool) => vacant pool.device
      | (.ok (), pool) => occupied (.begin pool)
  | vacant memory, _ => vacant memory
  | occupied history, command => occupied (history.step command)

def run (site : PoolSite) (commands : List PoolCommand) : PoolSite := commands.foldl step site

end PoolSite

/-- Some calls over a fresh device lead to the history. -/
def PoolHistory.Reachable (history : PoolHistory) : Prop :=
  ∃ capacity index commands,
    (PoolSite.vacant (.create capacity index)).run commands = .occupied history

/-- A creation that fails leaves an empty pool; one that succeeds stocks it. -/
theorem Pool.create_cases (memory : HostMemory) (config : PoolConfig) :
    (∃ error skipped, Pool.create memory config =
        (.error error, Pool.blank (memory.skip skipped) config)) ∨
      ∃ pool, Pool.create memory config = (.ok (), pool) ∧
        Pool.Restocks (Pool.blank memory config) pool := by
  rw [create]
  split
  case h_1 error _ => exact .inl ⟨error, 0, rfl⟩
  case h_2 size first =>
    split
    · exact .inr ⟨_, rfl, .refl _⟩
    · have ceiling : size ≤ config.maximum := by
        simp only [PoolConfig.firstSegment, checkedWord, bind, Except.bind] at first
        repeat' split at first
        all_goals cases first
        exact min_le_right _ _
      rcases addSegment_cases (blank memory config) size with
        ⟨error, skipped, refused⟩ | granted
      · exact .inl ⟨error, skipped, refused⟩
      · obtain ⟨granted, positive, room⟩ := granted
        have within : (blank memory config).reserved + size ≤ config.maximum := by
          simpa [blank] using ceiling
        exact .inr ⟨_, granted, .enlarge positive room within (.refl _)⟩

/-- A pool without segments leaves the device to the others. -/
theorem Pool.blank_housed {memory : HostMemory} (wellFormed : memory.WellFormed)
    (config : PoolConfig) : Pool.Housed memory.ranges (Pool.blank memory config) where
  device := wellFormed
  shares := .refl _
  partition := .empty
  reserved := rfl
  bounded := Nat.zero_le _
  used := rfl

namespace PoolSite

/-- Calls that follow each other are one run. -/
theorem run_concat (site : PoolSite) (commands : List PoolCommand) (last : PoolCommand) :
    site.run (commands ++ [last]) = (site.run commands).step last := by
  simp [run]

/-- Creations that fail leave the segments of the device as they were. -/
theorem run_vacant {memory final : HostMemory} {commands : List PoolCommand}
    (wellFormed : memory.WellFormed) (stays : (vacant memory).run commands = vacant final) :
    final.WellFormed ∧ final.ranges = memory.ranges := by
  induction commands using List.reverseRecOn generalizing final with
  | nil =>
      cases stays
      exact ⟨wellFormed, rfl⟩
  | append_singleton commands last ih =>
      rw [run_concat] at stays
      generalize reached : (vacant memory).run commands = before at stays
      cases before with
      | occupied history => cases stays
      | vacant middle =>
          have before := ih reached
          cases last
          case create config =>
            rcases Pool.create_cases middle config with
              ⟨error, skipped, failed⟩ | ⟨pool, created, -⟩
            · rw [step, failed] at stays
              cases stays
              exact ⟨before.1.skip skipped, before.2⟩
            · rw [step, created] at stays
              cases stays
          all_goals
            cases stays
            exact before

end PoolSite

namespace PoolHistory

variable {history : PoolHistory}

/-- What holds of every new pool and is kept by every call holds of every reachable history. -/
theorem reachable_induction {motive : PoolHistory → Prop}
    (start : ∀ (memory : HostMemory) config pool, memory.WellFormed → memory.ranges = [] →
      Pool.Restocks (Pool.blank memory config) pool → motive (begin pool))
    (advance : ∀ history command, history.Reachable → motive history → motive (history.step command))
    (reachable : history.Reachable) : motive history := by
  -- The induction is on the last call: only a creation leads from a device to a pool.
  obtain ⟨capacity, index, commands, reached⟩ := reachable
  induction commands using List.reverseRecOn generalizing history with
  | nil => cases reached
  | append_singleton commands last ih =>
      rw [PoolSite.run_concat] at reached
      generalize before : (PoolSite.vacant (.create capacity index)).run commands = site at reached
      cases site with
      | occupied earlier =>
          cases reached
          exact advance earlier last ⟨capacity, index, commands, before⟩ (ih before)
      | vacant memory =>
          obtain ⟨wellFormed, empty⟩ :=
            PoolSite.run_vacant (HostMemory.create_wellFormed capacity index) before
          cases last
          case create config =>
            rcases Pool.create_cases memory config with
              ⟨error, skipped, failed⟩ | ⟨pool, created, restocks⟩
            · rw [PoolSite.step, failed] at reached
              cases reached
            · rw [PoolSite.step, created] at reached
              cases reached
              exact start memory config pool wellFormed empty restocks
          all_goals cases reached

/-- A loan that is found is there, with the number. -/
theorem loan?_some {number : Nat} {loan : Loan} (found : history.loan? number = some loan) :
    loan ∈ history.loans ∧ loan.number = number :=
  Keyed.find?_some Loan.number found

/-- The history after a part of a free block was lent. -/
def lend (history : PoolHistory) (stocked : Pool HostMemory) (block : Block) (size reused : Nat) :
    PoolHistory :=
  { history.record { stocked.carve block (Number.roundUp size Pool.alignment) with
      reusedAllocations := reused } with
    loans := ⟨history.lent, ⟨block.address, size⟩, []⟩ :: history.loans
    lent := history.lent + 1 }

/-- All that one call can do. -/
inductive Advances (history : PoolHistory) (command : PoolCommand) : PoolHistory → Prop
  | idle : Advances history command history
  | restock {pool : Pool HostMemory} (restocks : Pool.Restocks history.pool pool) :
      Advances history command (history.record pool)
  | lend {stocked : Pool HostMemory} {block : Block} {size : Nat}
      (restocks : Pool.Restocks history.pool stocked) (positive : 0 < size)
      (fit : Pool.bestFit? (Number.roundUp size Pool.alignment) stocked.free = some block)
      (reused : Nat) : Advances history command (history.lend stocked block size reused)
  | drop {loan : Loan} (member : loan ∈ history.loans) (named : command = .drop loan.number) :
      Advances history command (history.drop loan)
  | write {loan : Loan} {bytes : Bytes} (member : loan ∈ history.loans)
      (named : command = .write loan.number bytes) :
      Advances history command (history.write loan bytes)

/-- A call does one of these things. -/
theorem step_advances {others : List Segment} (housed : Pool.Housed others history.pool)
    (command : PoolCommand) :
    history.Advances command (history.step command) := by
  cases command with
  | create config => exact .idle
  | allocate size =>
      rw [step, allocate]
      obtain ⟨stocked, restocks, ⟨error, failed⟩ | ⟨block, reused, positive, fit, lent⟩⟩ :=
        Pool.allocate_cases housed size
      · rw [failed]
        exact .restock restocks
      · rw [lent]
        exact .lend restocks positive fit reused
  | drop number =>
      rw [step]
      cases found : history.loan? number with
      | none => exact .idle
      | some loan =>
          obtain ⟨member, rfl⟩ := loan?_some found
          exact .drop member rfl
  | trim => exact .restock (Pool.trim_restocks housed)
  | write number bytes =>
      rw [step]
      cases found : history.loan? number with
      | none => exact .idle
      | some loan =>
          obtain ⟨member, rfl⟩ := loan?_some found
          exact .write member rfl
  | read number length => exact .idle

end PoolHistory

end DeviceKernels
