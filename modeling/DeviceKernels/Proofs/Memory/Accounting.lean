import DeviceKernels.Proofs.Memory.Lending

/-
The accounts of a pool. Over every history the loans and the live blocks answer to each other, so
what the pool reports about itself is what was done with it.
-/

namespace DeviceKernels

namespace PoolHistory

/-- The pool is well formed, every loan has its own live block, and the counters count the calls. -/
structure Consistent (history : PoolHistory) : Prop where
  wellFormed : history.pool.WellFormed
  backed : ∀ loan ∈ history.loans, ∃ block ∈ history.pool.live,
    block.address = loan.buffer.address ∧ loan.buffer.length ≤ block.size
  matched : (history.loans.map fun loan => loan.buffer.address).Perm
    (history.pool.live.map Block.address)
  numbered : (history.loans.map Loan.number).Nodup
  earlier : ∀ loan ∈ history.loans, loan.number < history.lent
  balanced : history.pool.totalAllocations = history.loans.length + history.returned
  reached : history.pool.peakUsed ∈ history.levels
  highest : ∀ level ∈ history.levels, level ≤ history.pool.peakUsed
  current : history.pool.used ∈ history.levels

variable {history : PoolHistory} {pool : Pool HostMemory} {loan other : Loan} {block : Block}

namespace Consistent

/-- The pool has its device to itself. -/
theorem lending (consistent : history.Consistent) : history.Lending [] where
  housed := consistent.wellFormed.housed
  backed := consistent.backed
  matched := consistent.matched
  numbered := consistent.numbered
  earlier := consistent.earlier

/-- A pool that lends the same may take the place of the pool. -/
theorem replace (consistent : history.Consistent) (wellFormed : pool.WellFormed)
    (same : Pool.SameLoans history.pool pool) : Consistent { history with pool } := by
  have lending := consistent.lending.replace wellFormed.housed same.live
  refine ⟨wellFormed, lending.backed, lending.matched, lending.numbered, lending.earlier,
    same.totalAllocations.trans consistent.balanced, ?_, ?_, ?_⟩
  · simp only [same.peakUsed]
    exact consistent.reached
  · simp only [same.peakUsed]
    exact consistent.highest
  · simp only [same.used]
    exact consistent.current

/-- The level may be noted at any time. -/
theorem note (consistent : history.Consistent) : (history.record history.pool).Consistent where
  wellFormed := consistent.wellFormed
  backed := consistent.backed
  matched := consistent.matched
  numbered := consistent.numbered
  earlier := consistent.earlier
  balanced := consistent.balanced
  reached := List.mem_cons_of_mem _ consistent.reached
  highest level member := by
    rcases List.mem_cons.mp member with rfl | member
    · exact consistent.highest _ consistent.current
    · exact consistent.highest level member
  current := List.mem_cons_self

/-- A pool after a restocking may take the place of the pool. -/
theorem restocked (consistent : history.Consistent) (restocks : Pool.Restocks history.pool pool) :
    Consistent { history with pool } :=
  consistent.replace (restocks.housed consistent.wellFormed.housed).wellFormed restocks.sameLoans

/-- A restocking is a call that changes no account. -/
theorem restock (consistent : history.Consistent) (restocks : Pool.Restocks history.pool pool) :
    (history.record pool).Consistent :=
  (consistent.restocked restocks).note

/-- A free block of the pool is lent as it stands. -/
theorem lend_front (consistent : history.Consistent) {size : Nat} (positive : 0 < size)
    (fit : Pool.bestFit? (Number.roundUp size Pool.alignment) history.pool.free = some block)
    (reused : Nat) : (history.lend history.pool block size reused).Consistent := by
  have lending := consistent.lending.lend_front positive fit reused
  refine ⟨lending.housed.wellFormed, lending.backed, lending.matched, lending.numbered,
    lending.earlier, ?_, ?_, ?_, List.mem_cons_self⟩
  · have balanced := consistent.balanced
    simp only [PoolHistory.lend, record, Pool.carve, List.length_cons]
    omega
  -- The new peak is the old one or the new level.
  · simp only [PoolHistory.lend, record, Pool.carve, List.mem_cons]
    rcases max_choice history.pool.peakUsed
        (history.pool.used + Number.roundUp size Pool.alignment) with same | same
    · rw [same]
      exact .inr consistent.reached
    · exact .inl same
  · intro level levelMember
    simp only [PoolHistory.lend, record, Pool.carve, List.mem_cons] at levelMember ⊢
    rcases levelMember with rfl | levelMember
    · exact le_max_right _ _
    · exact (consistent.highest level levelMember).trans (le_max_left _ _)

/-- A free block is lent after a restocking. -/
theorem lend (consistent : history.Consistent) {size : Nat}
    (restocks : Pool.Restocks history.pool pool) (positive : 0 < size)
    (fit : Pool.bestFit? (Number.roundUp size Pool.alignment) pool.free = some block)
    (reused : Nat) : (history.lend pool block size reused).Consistent :=
  (consistent.restocked restocks).lend_front positive fit reused

/-- A loan comes back. -/
theorem drop (consistent : history.Consistent) (member : loan ∈ history.loans) :
    (history.drop loan).Consistent := by
  have lending := consistent.lending.drop member
  have kept := Keyed.filter_perm Loan.number member consistent.numbered
  obtain ⟨block, blockMember, address, -⟩ := consistent.backed loan member
  have level : history.pool.used - block.size ≤ history.pool.peakUsed :=
    (Nat.sub_le _ _).trans (consistent.highest _ consistent.current)
  rw [PoolHistory.drop, consistent.lending.giveBack_live blockMember address] at lending ⊢
  refine ⟨lending.housed.wellFormed, lending.backed, lending.matched, lending.numbered,
    lending.earlier, ?_, List.mem_cons_of_mem _ consistent.reached, ?_, List.mem_cons_self⟩
  · have count := kept.length_eq
    have balanced := consistent.balanced
    rw [List.length_cons] at count
    simp only [record, Pool.retire]
    omega
  · intro other otherMember
    rcases List.mem_cons.mp otherMember with rfl | otherMember
    · exact level
    · exact consistent.highest other otherMember

/-- What is written through a loan may be noted at any time. -/
theorem noting (consistent : history.Consistent) (number : Nat) (bytes : Bytes) :
    Consistent { history with loans := history.loans.map (Loan.noting number bytes) } := by
  have lending := consistent.lending.noting number bytes
  refine ⟨consistent.wellFormed, lending.backed, lending.matched, lending.numbered,
    lending.earlier, ?_, consistent.reached, consistent.highest, consistent.current⟩
  simpa using consistent.balanced

/-- A write moves no loan. -/
theorem write (consistent : history.Consistent) (loan : Loan) (bytes : Bytes) :
    (history.write loan bytes).Consistent := by
  rw [PoolHistory.write]
  rcases history.pool.write_cases loan.buffer bytes with ⟨error, refused⟩ | ⟨base, offset, done⟩
  · rw [refused]
    exact consistent
  · rw [done]
    have housed := Pool.patch_housed consistent.wellFormed.housed base offset bytes
    have patched := consistent.replace housed.wellFormed ⟨rfl, rfl, rfl, rfl, rfl, rfl⟩
    exact patched.note.noting loan.number bytes

/-- Every call keeps the accounts. -/
theorem step (consistent : history.Consistent) (command : PoolCommand) :
    (history.step command).Consistent := by
  have advances := step_advances consistent.wellFormed.housed command
  generalize history.step command = after at advances ⊢
  cases advances with
  | idle => exact consistent
  | restock restocks => exact consistent.restock restocks
  | lend restocks positive fit reused => exact consistent.lend restocks positive fit reused
  | drop member => exact consistent.drop member
  | write => exact consistent.write _ _

end Consistent

/-- A new pool has nothing lent. -/
theorem begin_consistent {memory : HostMemory} {config : PoolConfig}
    (wellFormed : memory.WellFormed) (empty : memory.ranges = [])
    (restocks : Pool.Restocks (Pool.blank memory config) pool) : (begin pool).Consistent := by
  have same := restocks.sameLoans
  have lending := begin_lending wellFormed restocks
  rw [empty] at lending
  refine ⟨lending.housed.wellFormed, lending.backed, lending.matched, lending.numbered,
    lending.earlier, ?_, ?_, ?_, ?_⟩
  · simp [begin, same.totalAllocations, Pool.blank]
  · simp [begin, same.peakUsed, same.used, Pool.blank]
  · simp [begin, same.peakUsed, same.used, Pool.blank]
  · simp [begin]

/-- Every reachable history is consistent. -/
theorem reachable_consistent (reachable : history.Reachable) : history.Consistent := by
  refine reachable_induction ?_ ?_ reachable
  · intro memory config pool wellFormed empty restocks
    exact begin_consistent wellFormed empty restocks
  · intro earlier command _ consistent
    exact consistent.step command

/-- What the pool reports is true: the blocks tile the segments, the byte counters are sums over
the segments and the blocks, and the call counters are counts over the history. -/
structure Accounted (history : PoolHistory) : Prop where
  tiled : Partition history.pool.segments (history.pool.free ++ history.pool.live)
  reserved : history.pool.statistics.reserved = segmentBytes history.pool.segments
  allocated : history.pool.statistics.reserved =
    DeviceAllocator.allocatedBytes history.pool.device
  bounded : history.pool.statistics.reserved ≤ history.pool.config.maximum
  used : history.pool.statistics.used = blockBytes history.pool.live
  conserved : history.pool.statistics.used + history.pool.statistics.free =
    history.pool.statistics.reserved
  peakReached : history.pool.statistics.peakUsed ∈ history.levels
  peakHighest : ∀ level ∈ history.levels, level ≤ history.pool.statistics.peakUsed
  lent : history.pool.statistics.live = history.loans.length
  balanced : history.pool.statistics.totalAllocations =
    history.pool.statistics.live + history.returned
  backed : ∀ loan ∈ history.loans, Pool.alignment ∣ loan.buffer.address ∧
    ∃ block ∈ history.pool.live, block.address = loan.buffer.address ∧
      loan.buffer.length ≤ block.size

/-- Every reachable history is accounted for. -/
theorem reachable_accounted (reachable : history.Reachable) : history.Accounted := by
  have consistent := reachable_consistent reachable
  have wellFormed := consistent.wellFormed
  have live : history.pool.live.length = history.loans.length := by
    simpa using consistent.matched.length_eq.symm
  refine ⟨wellFormed.partition, wellFormed.reserved, wellFormed.allocated.symm, wellFormed.bounded,
    wellFormed.used, wellFormed.conserved, consistent.reached, consistent.highest, live, ?_, ?_⟩
  · exact consistent.balanced.trans (by rw [← live]; rfl)
  · intro loan member
    obtain ⟨block, blockMember, address, enough⟩ := consistent.backed loan member
    have aligned := wellFormed.partition.aligned block (List.mem_append_right _ blockMember)
    rw [address] at aligned
    exact ⟨aligned, block, blockMember, address, enough⟩

/-- A creation that fails, one that succeeds, growth, a write, a return, a trim that gives the first
segment back, and a request beyond the maximum. -/
def session : List PoolCommand :=
  [.create ⟨512, 0, 256⟩, .create ⟨512, 2000, 600⟩, .allocate 300, .allocate 700, .write 1 [7, 8],
    .drop 0, .trim, .allocate 3000]

set_option maxRecDepth 4000 in
/-- The session ends with one of its two buffers lent. -/
theorem reachable_accounted_session : ∃ history,
    (PoolSite.vacant (.create 2000 0)).run session = .occupied history ∧
      history.levels = [768, 768, 768, 1280, 1280, 512, 0] ∧ history.returned = 1 ∧
      history.Accounted :=
  ⟨_, rfl, rfl, rfl, reachable_accounted ⟨2000, 0, session, rfl⟩⟩

end PoolHistory

end DeviceKernels
