import DeviceKernels.Proofs.Memory.Accounting

/-
Buffers keep apart. Over every history a buffer that is lent behaves as memory of its own:
accesses in its bounds succeed, it returns what was last written through it, and no call on other
buffers changes what it returns.
-/

namespace DeviceKernels

/-- The call gives the loan back or writes through it. -/
def PoolCommand.Concerns (number : Nat) : PoolCommand → Prop
  | .drop other => other = number
  | .write other _ => other = number
  | _ => False

/-- The last write decides about its positions. -/
theorem Loan.lastWritten_noting (loan : Loan) (bytes : Bytes) (position : Nat) :
    (loan.noting loan.number bytes).lastWritten position =
      bytes[position]?.or (loan.lastWritten position) := by
  rw [noting, if_pos (beq_self_eq_true _)]
  cases found : bytes[position]? <;> simp [lastWritten, found]

/-- A write through another loan is not noted. -/
theorem Loan.noting_other {loan : Loan} {number : Nat} (bytes : Bytes)
    (different : loan.number ≠ number) : loan.noting number bytes = loan := by
  rw [noting, if_neg (by simpa using different)]

namespace PoolHistory

variable {history : PoolHistory} {loan other : Loan} {bytes : Bytes} {byte : UInt8}
  {position : Nat} {others : List Segment}

/-- The device holds what was last written through every loan. -/
def Faithful (history : PoolHistory) : Prop :=
  ∀ loan ∈ history.loans, ∀ position < loan.buffer.length, ∀ byte,
    loan.lastWritten position = some byte →
      history.pool.device.Holds (loan.buffer.address + position) byte

namespace Lending

/-- The buffer of a loan lies in one allocation of the device. -/
theorem enclosed (lending : history.Lending others) (member : loan ∈ history.loans) :
    ∃ allocation ∈ history.pool.device.segments,
      HostMemory.Encloses allocation loan.buffer.address loan.buffer.length := by
  obtain ⟨block, blockMember, address, enough⟩ := lending.backed loan member
  obtain ⟨allocation, allocationMember, encloses⟩ :=
    Pool.live_enclosed lending.housed blockMember
  rw [address] at encloses
  exact ⟨allocation, allocationMember, encloses.shorter enough⟩

/-- A position of one buffer is no position of another. -/
theorem loans_apart (lending : history.Lending others) (member : loan ∈ history.loans)
    (otherMember : other ∈ history.loans) (different : other.number ≠ loan.number)
    (within : position < other.buffer.length) :
    other.buffer.address + position < loan.buffer.address ∨
      loan.buffer.address + loan.buffer.length ≤ other.buffer.address + position := by
  obtain ⟨block, blockMember, address, enough⟩ := lending.backed loan member
  obtain ⟨place, placeMember, placeAddress, placeEnough⟩ := lending.backed other otherMember
  have apart := lending.addresses_distinct otherMember member different
  rw [← address, ← placeAddress] at apart
  by_contra both
  refine Pool.live_apart lending.housed placeMember blockMember apart
    (other.buffer.address + position) ?_ ?_
  all_goals
    simp only [Block.Covers, Block.stop]
    omega

/-- A write within the bounds is one patch of the allocation around the buffer. -/
theorem write_patches (lending : history.Lending others) (member : loan ∈ history.loans)
    (within : bytes.length ≤ loan.buffer.length) :
    ∃ allocation ∈ history.pool.device.segments,
      HostMemory.Encloses allocation loan.buffer.address bytes.length ∧
        history.pool.write loan.buffer bytes = .ok { history.pool with
          device := history.pool.device.patch allocation.base
            (loan.buffer.address - allocation.base) bytes } := by
  obtain ⟨allocation, allocationMember, encloses⟩ := lending.enclosed member
  have shorter := encloses.shorter within
  have patched := HostMemory.write_inside lending.housed.device allocationMember shorter
  refine ⟨allocation, allocationMember, shorter, ?_⟩
  rw [Pool.write, if_neg (Nat.not_lt.mpr within)]
  exact congrArg (Except.map _) patched

/-- A restocking keeps what the buffers hold. -/
theorem restock_keeps (lending : history.Lending others) (member : loan ∈ history.loans)
    {pool : Pool HostMemory} (restocks : Pool.Restocks history.pool pool)
    (within : position < loan.buffer.length)
    (holds : history.pool.device.Holds (loan.buffer.address + position) byte) :
    pool.device.Holds (loan.buffer.address + position) byte := by
  obtain ⟨block, blockMember, address, enough⟩ := lending.backed loan member
  refine restocks.holds lending.housed blockMember ?_ holds
  simp only [Block.Covers, Block.stop]
  omega

/-- A write through one loan keeps what the other buffers hold. -/
theorem write_keeps (lending : history.Lending others) (member : loan ∈ history.loans)
    (otherMember : other ∈ history.loans) (different : other.number ≠ loan.number)
    (within : position < other.buffer.length)
    (holds : history.pool.device.Holds (other.buffer.address + position) byte) :
    (history.write loan bytes).pool.device.Holds (other.buffer.address + position) byte := by
  rw [PoolHistory.write]
  by_cases bounds : bytes.length ≤ loan.buffer.length
  · obtain ⟨allocation, allocationMember, encloses, done⟩ :=
      lending.write_patches member bounds
    rw [done]
    refine HostMemory.patch_frame lending.housed.device allocationMember encloses ?_ holds
    have apart := lending.loans_apart member otherMember different within
    omega
  · rw [Pool.write, if_pos (Nat.not_le.mp bounds)]
    exact holds

/-- A loan that comes back changes nothing in the device. -/
theorem drop_device (lending : history.Lending others) (member : loan ∈ history.loans) :
    (history.drop loan).pool.device = history.pool.device := by
  obtain ⟨block, blockMember, address, -⟩ := lending.backed loan member
  rw [PoolHistory.drop, lending.giveBack_live blockMember address]
  rfl

end Lending

namespace Advances

variable {command : PoolCommand} {after : PoolHistory}

/-- A call keeps what every buffer holds that it does not concern. -/
theorem keeps (advances : history.Advances command after) (lending : history.Lending others)
    (member : loan ∈ history.loans) (elsewhere : ¬command.Concerns loan.number)
    (within : position < loan.buffer.length)
    (holds : history.pool.device.Holds (loan.buffer.address + position) byte) :
    after.pool.device.Holds (loan.buffer.address + position) byte := by
  cases advances with
  | idle => exact holds
  | restock restocks => exact lending.restock_keeps member restocks within holds
  | lend restocks =>
      have kept := lending.restock_keeps member restocks within holds
      exact kept
  | drop goneMember =>
      rw [lending.drop_device goneMember]
      exact holds
  | write writtenMember named =>
      subst named
      exact lending.write_keeps writtenMember member (Ne.symm elsewhere) within holds

/-- A call keeps every loan that it does not concern. -/
theorem member (advances : history.Advances command after) (member : loan ∈ history.loans)
    (elsewhere : ¬command.Concerns loan.number) : loan ∈ after.loans := by
  cases advances with
  | idle => exact member
  | restock => exact member
  | lend => exact List.mem_cons_of_mem _ member
  | drop _ named =>
      subst named
      exact List.mem_filter.mpr ⟨member, bne_iff_ne.mpr (Ne.symm elsewhere)⟩
  | write _ named =>
      subst named
      rw [PoolHistory.write]
      split
      · exact member
      · rw [← Loan.noting_other _ (Ne.symm elsewhere)]
        exact List.mem_map_of_mem member

end Advances

/-- After a write the device holds the new bytes of its loan and the old bytes of all others. -/
theorem Faithful.write (faithful : history.Faithful) (lending : history.Lending others)
    (member : loan ∈ history.loans) : (history.write loan bytes).Faithful := by
  by_cases bounds : bytes.length ≤ loan.buffer.length
  · obtain ⟨allocation, allocationMember, encloses, done⟩ := lending.write_patches member bounds
    intro other otherMember position within byte last
    rw [PoolHistory.write, done] at otherMember
    obtain ⟨earlier, earlierMember, rfl⟩ := List.mem_map.mp otherMember
    rw [Loan.noting_buffer] at within ⊢
    by_cases same : earlier.number = loan.number
    · have identical := List.inj_on_of_nodup_map lending.numbered earlierMember member same
      subst identical
      rw [PoolHistory.write, done]
      rw [Loan.lastWritten_noting, Option.or_eq_some_iff] at last
      rcases last with found | ⟨missed, before⟩
      · exact HostMemory.patch_hit allocationMember encloses found
      · have beyond := List.getElem?_eq_none_iff.mp missed
        refine HostMemory.patch_frame lending.housed.device allocationMember encloses ?_
          (faithful earlier member position within byte before)
        omega
    · rw [Loan.noting_other bytes same] at last
      exact lending.write_keeps member earlierMember same within
        (faithful earlier earlierMember position within byte last)
  · rw [PoolHistory.write, Pool.write, if_pos (Nat.not_le.mp bounds)]
    exact faithful

/-- Every call leaves the contents faithful. -/
theorem Faithful.step (faithful : history.Faithful) (lending : history.Lending others)
    (command : PoolCommand) : (history.step command).Faithful := by
  have advances := step_advances lending.housed command
  generalize history.step command = after at advances ⊢
  cases advances with
  | idle => exact faithful
  | restock restocks =>
      intro loan member position within byte last
      exact lending.restock_keeps member restocks within
        (faithful loan member position within byte last)
  | lend restocks =>
      intro loan member position within byte last
      rcases List.mem_cons.mp member with rfl | member
      · cases last
      · have kept := lending.restock_keeps member restocks within
          (faithful loan member position within byte last)
        exact kept
  | drop goneMember =>
      intro loan kept position within byte last
      rw [lending.drop_device goneMember]
      exact faithful loan (List.mem_of_mem_filter kept) position within byte last
  | write member => exact faithful.write lending member

end PoolHistory

end DeviceKernels
