import DeviceKernels.Proofs.Memory.Admission

/-
Requests that fail. Whatever a failing request tried, it leaves the pool as it was or as a trim
leaves it, so no buffer, no count of loans and no segment with a live block changes.
-/

namespace DeviceKernels

namespace Pool

variable {pool after : Pool HostMemory} {others : List Segment} {size : Nat} {error : MemoryError}

/-- The pool is as it was or as a trim leaves it, but for addresses that are used up. -/
def AtMostTrimmed (pool after : Pool HostMemory) : Prop :=
  ∃ skipped, after = pool.skip skipped ∨ after = pool.trim.2.skip skipped

theorem AtMostTrimmed.same (pool : Pool HostMemory) : pool.AtMostTrimmed pool := ⟨0, .inl rfl⟩

/-- What a failed request leaves of a pool. -/
structure LeftAlone (pool after : Pool HostMemory) : Prop where
  /-- No live block and no counter of loans changes. -/
  loans : SameLoans pool after
  /-- A live block reads as before. -/
  reads : ∀ block ∈ pool.live, ∀ length ≤ block.size,
    after.device.read block.address length = pool.device.read block.address length
  /-- A segment with a live block stays and keeps its free blocks. -/
  kept : ∀ segment ∈ pool.segments, pool.isOccupied segment →
    segment ∈ after.segments ∧ after.freeIn segment = pool.freeIn segment
  /-- Segments without live blocks may go, and their bytes with them. -/
  gone : ∃ gone, pool.segments.Perm (after.segments ++ gone) ∧
    (∀ segment ∈ gone, pool.isOccupied segment = false) ∧
      after.statistics.reserved + segmentBytes gone = pool.statistics.reserved ∧
        after.device.allocatedBytes + segmentBytes gone = pool.device.allocatedBytes

/-- The same pool is left alone. -/
theorem LeftAlone.same (pool : Pool HostMemory) : pool.LeftAlone pool where
  loans := ⟨rfl, rfl, rfl, rfl, rfl, rfl⟩
  reads := fun _ _ _ _ => rfl
  kept := fun _ member _ => ⟨member, rfl⟩
  gone := ⟨[], by simp, by simp, rfl, rfl⟩

/-- Addresses that are used up belong to nobody. -/
theorem LeftAlone.skip (left : pool.LeftAlone after) (skipped : Nat) :
    pool.LeftAlone (after.skip skipped) where
  loans := ⟨left.loans.config, left.loans.live, left.loans.used, left.loans.peakUsed,
    left.loans.totalAllocations, left.loans.reusedAllocations⟩
  reads := left.reads
  kept := left.kept
  gone := left.gone

/-- A trim leaves alone what is lent. -/
theorem LeftAlone.trimmed (housed : Housed others pool) (tidy : Tidy pool.free) :
    pool.LeftAlone pool.trim.2 where
  loans := (trim_restocks housed).sameLoans
  reads := fun _ member _ within => (trim_restocks housed).read_live housed member within
  kept := by
    intro segment member occupied
    refine ⟨?_, trim_freeIn housed tidy member occupied⟩
    rw [trim_segments housed tidy]
    exact List.mem_filter.mpr ⟨member, occupied⟩
  gone := by
    refine ⟨pool.segments.filter fun segment => !pool.isOccupied segment, ?_, ?_, ?_, ?_⟩
    · rw [trim_segments housed tidy]
      exact (List.filter_append_perm pool.isOccupied pool.segments).symm
    · intro segment member
      simpa using (List.mem_filter.mp member).2
    · rw [← idleBytes, ← trim_released housed tidy]
      exact trim_reserved housed tidy
    · rw [← idleBytes, ← trim_released housed tidy]
      exact trim_allocated housed tidy

end Pool

namespace Tenancy

variable {tenancy : Tenancy} {after : Pool HostMemory} {size : Nat} {error : MemoryError}

end Tenancy

end DeviceKernels
