import DeviceKernels.Proofs.Memory.Contents
import DeviceKernels.Proofs.Memory.History

/-
The loans of a pool. Over every call the loans and the live blocks answer to each other, whoever
else holds segments of the device.
-/

namespace DeviceKernels.PoolHistory

/-- The pool keeps its invariant beside the segments of others, and every loan has its own live
block. -/
structure Lending (others : List Segment) (history : PoolHistory) : Prop where
  housed : Pool.Housed others history.pool
  backed : ∀ loan ∈ history.loans, ∃ block ∈ history.pool.live,
    block.address = loan.buffer.address ∧ loan.buffer.length ≤ block.size
  matched : (history.loans.map fun loan => loan.buffer.address).Perm
    (history.pool.live.map Block.address)
  numbered : (history.loans.map Loan.number).Nodup
  earlier : ∀ loan ∈ history.loans, loan.number < history.lent

variable {history : PoolHistory} {pool : Pool HostMemory} {loan other : Loan} {block : Block}
  {others : List Segment}

namespace Lending

/-- Different loans begin at different addresses. -/
theorem addresses_distinct (lending : history.Lending others) (member : loan ∈ history.loans)
    (otherMember : other ∈ history.loans) (different : loan.number ≠ other.number) :
    loan.buffer.address ≠ other.buffer.address := by
  intro same
  have distinct := lending.matched.nodup_iff.mpr lending.housed.live_distinct
  exact different (congrArg Loan.number (List.inj_on_of_nodup_map distinct member otherMember same))

/-- A pool with the same live blocks may take the place of the pool. -/
theorem replace {newcomers : List Segment} (lending : history.Lending others)
    (housed : Pool.Housed newcomers pool) (live : pool.live = history.pool.live) :
    Lending newcomers { history with pool } where
  housed := housed
  backed := by
    simp only [live]
    exact lending.backed
  matched := by
    simp only [live]
    exact lending.matched
  numbered := lending.numbered
  earlier := lending.earlier

/-- The level may be noted at any time. -/
theorem note (lending : history.Lending others) : (history.record history.pool).Lending others :=
  ⟨lending.housed, lending.backed, lending.matched, lending.numbered, lending.earlier⟩

/-- A restocking is a call that changes no loan. -/
theorem restock (lending : history.Lending others) (restocks : Pool.Restocks history.pool pool) :
    (history.record pool).Lending others :=
  (lending.replace (restocks.housed lending.housed) restocks.sameLoans.live).note

/-- A free block of the pool is lent as it stands. -/
theorem lend_front (lending : history.Lending others) {size : Nat} (positive : 0 < size)
    (fit : Pool.bestFit? (Number.roundUp size Pool.alignment) history.pool.free = some block)
    (reused : Nat) : (history.lend history.pool block size reused).Lending others := by
  obtain ⟨member, enough, -⟩ := Pool.bestFit?_some fit
  have within := Number.leRoundUp (show 0 < Pool.alignment by decide) size
  have carved := Pool.carve_housed lending.housed member enough (positive.trans_le within)
    (Number.dvdRoundUp size Pool.alignment)
  refine ⟨⟨carved.device, carved.shares, carved.partition, carved.reserved, carved.bounded,
    carved.used⟩, ?_, lending.matched.cons block.address, ?_, ?_⟩
  · intro loan loanMember
    rcases List.mem_cons.mp loanMember with rfl | loanMember
    · exact ⟨⟨block.address, _, block.segment⟩, List.mem_cons_self, rfl, within⟩
    · obtain ⟨place, placeMember, facts⟩ := lending.backed loan loanMember
      exact ⟨place, List.mem_cons_of_mem _ placeMember, facts⟩
  · refine List.nodup_cons.mpr ⟨?_, lending.numbered⟩
    intro taken
    obtain ⟨loan, loanMember, number⟩ := List.mem_map.mp taken
    exact Nat.ne_of_lt (lending.earlier loan loanMember) number
  · intro loan loanMember
    rcases List.mem_cons.mp loanMember with rfl | loanMember
    · exact Nat.lt_succ_self _
    · exact (lending.earlier loan loanMember).trans (Nat.lt_succ_self _)

/-- A free block is lent after a restocking. -/
theorem lend (lending : history.Lending others) {size : Nat}
    (restocks : Pool.Restocks history.pool pool) (positive : 0 < size)
    (fit : Pool.bestFit? (Number.roundUp size Pool.alignment) pool.free = some block)
    (reused : Nat) : (history.lend pool block size reused).Lending others :=
  (lending.replace (restocks.housed lending.housed) restocks.sameLoans.live).lend_front
    positive fit reused

/-- A loan is given back from its live block. -/
theorem giveBack_live (lending : history.Lending others) (member : block ∈ history.pool.live)
    (same : block.address = loan.buffer.address) :
    history.pool.giveBack loan.buffer = history.pool.retire block := by
  have found := Pool.blockAt?_mem member lending.housed.live_distinct
  rw [same] at found
  rw [Pool.giveBack, Pool.release, found]

/-- A loan comes back. -/
theorem drop (lending : history.Lending others) (member : loan ∈ history.loans) :
    (history.drop loan).Lending others := by
  obtain ⟨block, blockMember, address, -⟩ := lending.backed loan member
  have kept := Keyed.filter_perm Loan.number member lending.numbered
  have erased := Pool.eraseAt_perm blockMember lending.housed.live_distinct
  rw [PoolHistory.drop, giveBack_live lending blockMember address]
  refine ⟨Pool.retire_housed lending.housed blockMember, ?_, ?_, ?_, ?_⟩
  · intro other otherKept
    obtain ⟨otherMember, different⟩ := List.mem_filter.mp otherKept
    obtain ⟨place, placeMember, placeAddress, facts⟩ := lending.backed other otherMember
    have apart := lending.addresses_distinct otherMember member (bne_iff_ne.mp different)
    rw [← placeAddress, ← address] at apart
    exact ⟨place, List.mem_filter.mpr ⟨placeMember, bne_iff_ne.mpr apart⟩, placeAddress, facts⟩
  · have before := ((kept.map _).symm.trans lending.matched).trans (erased.map Block.address)
    rw [List.map_cons, List.map_cons, ← address] at before
    exact before.cons_inv
  · exact Keyed.distinct_filter Loan.number _ lending.numbered
  · intro other otherKept
    exact lending.earlier other (List.mem_of_mem_filter otherKept)

/-- What is written through a loan may be noted at any time. -/
theorem noting (lending : history.Lending others) (number : Nat) (bytes : Bytes) :
    Lending others { history with loans := history.loans.map (Loan.noting number bytes) } where
  housed := lending.housed
  backed := by simpa using lending.backed
  matched := by simpa [Function.comp_def] using lending.matched
  numbered := by simpa [Function.comp_def] using lending.numbered
  earlier := by simpa using lending.earlier

/-- A write moves no loan. -/
theorem write (lending : history.Lending others) (loan : Loan) (bytes : Bytes) :
    (history.write loan bytes).Lending others := by
  rw [PoolHistory.write]
  rcases history.pool.write_cases loan.buffer bytes with ⟨error, refused⟩ | ⟨base, offset, done⟩
  · rw [refused]
    exact lending
  · rw [done]
    have patched := lending.replace (Pool.patch_housed lending.housed base offset bytes) rfl
    exact patched.note.noting loan.number bytes

/-- Every call keeps the loans in order. -/
theorem step (lending : history.Lending others) (command : PoolCommand) :
    (history.step command).Lending others := by
  have advances := step_advances lending.housed command
  generalize history.step command = after at advances ⊢
  cases advances with
  | idle => exact lending
  | restock restocks => exact lending.restock restocks
  | lend restocks positive fit reused => exact lending.lend restocks positive fit reused
  | drop member => exact lending.drop member
  | write => exact lending.write _ _

end Lending

/-- A new pool has nothing lent. -/
theorem begin_lending {memory : HostMemory} {config : PoolConfig} (wellFormed : memory.WellFormed)
    (restocks : Pool.Restocks (Pool.blank memory config) pool) :
    (begin pool).Lending memory.ranges := by
  have same := restocks.sameLoans
  refine ⟨restocks.housed (Pool.blank_housed wellFormed config), ?_, ?_, ?_, ?_⟩
  · simp [begin]
  · simp [begin, same.live, Pool.blank]
  · simp [begin]
  · simp [begin]

end DeviceKernels.PoolHistory
