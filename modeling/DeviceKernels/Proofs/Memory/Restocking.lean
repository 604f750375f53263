import DeviceKernels.Proofs.Memory.PoolInvariant

/-
Growth and trimming. Both only add fresh segments and give idle ones up, so they keep the
invariant and every loan, whether the request behind them succeeds or fails.
-/

namespace DeviceKernels.Pool

/-- The second pool comes from the first by fresh segments, by idle segments given up, and by
addresses that are used up. -/
inductive Restocks : Pool HostMemory → Pool HostMemory → Prop
  | refl (pool : Pool HostMemory) : Restocks pool pool
  | skip {pool final : Pool HostMemory} (size : Nat) (rest : Restocks (pool.skip size) final) :
      Restocks pool final
  | enlarge {pool final : Pool HostMemory} {size : Nat} (positive : 0 < size)
      (room : pool.device.allocatedBytes + size ≤ pool.device.capacity)
      (ceiling : pool.reserved + size ≤ pool.config.maximum)
      (rest : Restocks (pool.enlarge size) final) : Restocks pool final
  | drop {pool final : Pool HostMemory} {segment : Segment} (member : segment ∈ pool.segments)
      (idle : pool.isIdle segment) (rest : Restocks (pool.dropSegment segment) final) :
      Restocks pool final

/-- Two pools with the same loans and the same counters of loans. -/
structure SameLoans (before after : Pool HostMemory) : Prop where
  config : after.config = before.config
  live : after.live = before.live
  used : after.used = before.used
  peakUsed : after.peakUsed = before.peakUsed
  totalAllocations : after.totalAllocations = before.totalAllocations
  reusedAllocations : after.reusedAllocations = before.reusedAllocations

variable {pool middle final : Pool HostMemory} {others : List Segment}

namespace Restocks

theorem trans (first : Restocks pool middle) (second : Restocks middle final) :
    Restocks pool final := by
  induction first with
  | refl => exact second
  | skip size _ ih => exact .skip size (ih second)
  | enlarge positive room ceiling _ ih => exact .enlarge positive room ceiling (ih second)
  | drop member idle _ ih => exact .drop member idle (ih second)

/-- Every pool on the way keeps the invariant. -/
theorem housed (restocks : Restocks pool final) (housed : Housed others pool) :
    Housed others final := by
  induction restocks with
  | refl => exact housed
  | skip size _ ih => exact ih (skip_housed housed size)
  | enlarge positive room ceiling _ ih => exact ih (enlarge_housed housed positive room ceiling)
  | drop member idle _ ih => exact ih (dropSegment_housed housed member idle)

/-- No loan changes on the way. -/
theorem sameLoans (restocks : Restocks pool final) : SameLoans pool final := by
  induction restocks with
  | refl => exact ⟨rfl, rfl, rfl, rfl, rfl, rfl⟩
  | skip _ _ ih =>
      exact ⟨ih.config, ih.live, ih.used, ih.peakUsed, ih.totalAllocations, ih.reusedAllocations⟩
  | enlarge _ _ _ _ ih =>
      exact ⟨ih.config, ih.live, ih.used, ih.peakUsed, ih.totalAllocations, ih.reusedAllocations⟩
  | drop _ _ _ ih =>
      exact ⟨ih.config, ih.live, ih.used, ih.peakUsed, ih.totalAllocations, ih.reusedAllocations⟩

end Restocks

/-- The segments to add lie between the request and the room up to the maximum. -/
theorem growthFor_some {size step : Nat} (found : pool.growthFor size = .ok (some step)) :
    size ≤ step ∧ step ≤ pool.config.maximum - pool.reserved := by
  simp only [growthFor, bind, Except.bind] at found
  split at found
  · cases found
  · split at found
    · cases found
    · simp only [Except.ok.injEq, Option.some.injEq] at found
      omega

/-- An attempt with sizes below the maximum restocks the pool. -/
theorem tryGrow_restocks (request : Nat) (candidates : List Nat) (growth : Growth HostMemory)
    (possible : ∀ size ∈ candidates, growth.pool.reserved + size ≤ growth.pool.config.maximum) :
    Restocks growth.pool (tryGrow request candidates growth).2.pool := by
  induction candidates generalizing growth with
  | nil => exact .refl _
  | cons candidate rest ih =>
      rcases addSegment_cases growth.pool candidate with
        ⟨error, skipped, refused⟩ | ⟨granted, positive, room⟩
      · rw [tryGrow, refused]
        cases error
        case outOfMemory =>
          exact .skip skipped (ih ⟨growth.pool.skip skipped, growth.grown, some _⟩
            fun size member => possible size (List.mem_cons_of_mem _ member))
        all_goals exact .skip skipped (.refl _)
      · rw [tryGrow, granted]
        exact .enlarge positive room (possible candidate (by simp)) (.refl _)

/-- Growth restocks the pool. -/
theorem grow_restocks (size : Nat) (growth : Growth HostMemory)
    (bounded : growth.pool.reserved ≤ growth.pool.config.maximum) :
    Restocks growth.pool (grow size growth).2.pool := by
  rw [grow]
  split
  · exact .refl _
  · exact .refl _
  case h_3 step found =>
    have bounds := growthFor_some found
    refine tryGrow_restocks size _ growth ?_
    intro candidate member
    have either : candidate = step ∨ candidate = size := by
      split at member <;> simp at member <;> tauto
    omega

/-- An idle segment stays idle while another is given up. -/
theorem isIdle_dropSegment {segment other : Segment} (different : other.base ≠ segment.base) :
    (pool.dropSegment segment).isIdle other = pool.isIdle other := by
  simp only [isIdle, dropSegment, blockAt?_eraseAt_other pool.free different]

/-- Giving up several idle segments restocks the pool. -/
theorem dropAll_restocks (idle : List Segment) (pool : Pool HostMemory)
    (distinct : (idle.map Segment.base).Nodup)
    (known : ∀ segment ∈ idle, segment ∈ pool.segments ∧ pool.isIdle segment) :
    Restocks pool (idle.foldl dropSegment pool) := by
  -- The list was taken from the first pool, so the rest must still be idle in the next one.
  induction idle generalizing pool with
  | nil => exact .refl _
  | cons segment rest ih =>
      obtain ⟨fresh, distinctRest⟩ := List.nodup_cons.mp distinct
      obtain ⟨member, segmentIdle⟩ := known segment (by simp)
      refine .drop member segmentIdle (ih _ distinctRest ?_)
      intro other otherMember
      have different : other.base ≠ segment.base := by
        intro same
        exact fresh (same ▸ List.mem_map_of_mem otherMember)
      obtain ⟨kept, otherIdle⟩ := known other (List.mem_cons_of_mem _ otherMember)
      rw [isIdle_dropSegment different]
      exact ⟨List.mem_filter.mpr ⟨kept, bne_iff_ne.mpr different⟩, otherIdle⟩

/-- Trimming restocks the pool. -/
theorem trim_restocks (housed : Housed others pool) : Restocks pool pool.trim.2 := by
  refine dropAll_restocks _ pool ?_ ?_
  · exact Keyed.distinct_filter Segment.base _ housed.partition.separate.distinct
  · intro segment member
    exact List.mem_filter.mp member

/-- Growth with trimming restocks the pool. -/
theorem growOrTrim_restocks (housed : Housed others pool) (size : Nat) :
    Restocks pool (pool.growOrTrim size).2.pool := by
  have first := grow_restocks size ⟨pool, false, none⟩ housed.bounded
  rw [growOrTrim]
  split
  case h_1 growth result => rwa [result] at first
  case h_2 growth result =>
    rw [result] at first
    change Restocks pool growth.pool at first
    have trimmed := first.trans (trim_restocks (first.housed housed))
    generalize growth.pool.trim = outcome at trimmed ⊢
    obtain ⟨released, trimmedPool⟩ := outcome
    dsimp only
    split
    · exact first
    · split
      · exact trimmed
      · exact trimmed.trans (grow_restocks size { growth with pool := trimmedPool }
          (trimmed.housed housed).bounded)

/-- A block request fails after a restocking, or it takes the best block that a restocking left. -/
theorem allocateBlock_cases (housed : Housed others pool) (size : Nat) :
    ∃ stocked, Restocks pool stocked ∧
      ((∃ error, pool.allocateBlock size = (.error error, stocked)) ∨
        ∃ block reused, bestFit? size stocked.free = some block ∧
          pool.allocateBlock size = (.ok block.address,
            { stocked.carve block size with reusedAllocations := reused })) := by
  rw [allocateBlock, take?]
  cases fit : bestFit? size pool.free with
  | some block => exact ⟨pool, .refl _, .inr ⟨block, _, fit, rfl⟩⟩
  | none =>
      have stocked := growOrTrim_restocks housed size
      rw [Option.map_none]
      dsimp only
      generalize pool.growOrTrim size = outcome at stocked ⊢
      obtain ⟨result, growth⟩ := outcome
      refine ⟨growth.pool, stocked, ?_⟩
      cases result with
      | error error => exact .inl ⟨error, rfl⟩
      | ok =>
          dsimp only
          split
          · exact .inl ⟨_, rfl⟩
          · rw [take?]
            cases bestFit? size growth.pool.free with
            | none => exact .inl ⟨_, rfl⟩
            | some block => exact .inr ⟨block, _, rfl, rfl⟩

/-- An allocation fails after a restocking, or it lends the best block that a restocking left. -/
theorem allocate_cases (housed : Housed others pool) (size : Nat) :
    ∃ stocked, Restocks pool stocked ∧
      ((∃ error, pool.allocate size = (.error error, stocked)) ∨
        ∃ block reused, 0 < size ∧
          bestFit? (Number.roundUp size alignment) stocked.free = some block ∧
          pool.allocate size = (.ok ⟨block.address, size⟩,
            { stocked.carve block (Number.roundUp size alignment) with
              reusedAllocations := reused })) := by
  rw [allocate]
  by_cases zero : size = 0
  · exact ⟨pool, .refl _, .inl ⟨_, by rw [if_pos (beq_iff_eq.mpr zero)]⟩⟩
  rw [if_neg (by simpa using zero), checkedWord]
  split
  case h_1 => exact ⟨pool, .refl _, .inl ⟨_, rfl⟩⟩
  case h_2 rounded fits =>
    split at fits <;> cases fits
    obtain ⟨stocked, restocks, ⟨error, failed⟩ | ⟨block, reused, fit, lent⟩⟩ :=
      allocateBlock_cases housed (Number.roundUp size alignment)
    · exact ⟨stocked, restocks, .inl ⟨error, by rw [failed]⟩⟩
    · exact ⟨stocked, restocks, .inr ⟨block, reused, Nat.pos_of_ne_zero zero, fit, by rw [lent]⟩⟩

end DeviceKernels.Pool
