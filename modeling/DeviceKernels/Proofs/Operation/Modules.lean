import DeviceKernels.Operation.ModuleSource

/-
Modules of kernels. A module keeps one kernel of every name, so it exports every kernel that was
asked for.
-/

namespace DeviceKernels.ModuleSource

theorem distinct_subset (seen : List String) (kernels : List Kernel) :
    distinct seen kernels ⊆ kernels := by
  induction kernels generalizing seen with
  | nil => exact List.Subset.refl _
  | cons kernel rest ih =>
      rw [distinct]
      split
      · exact List.subset_cons_of_subset _ (ih seen)
      · exact List.cons_subset_cons _ (ih _)

/-- Every name that has not been seen before is kept. -/
theorem distinct_covers {kernel : Kernel} :
    ∀ {seen : List String} {kernels : List Kernel}, kernel ∈ kernels → kernel.name ∉ seen →
      ∃ kept ∈ distinct seen kernels, kept.name = kernel.name
  | seen, head :: rest, member, unseen => by
      rw [distinct]
      by_cases named : kernel.name = head.name
      · rw [if_neg (by simpa [← named] using unseen)]
        exact ⟨head, List.mem_cons_self, named.symm⟩
      · have later : kernel ∈ rest :=
          (List.mem_cons.1 member).resolve_left fun same => named (by rw [same])
        split
        · exact distinct_covers later unseen
        · have fresh : kernel.name ∉ head.name :: seen := by
            simp [named, unseen]
          obtain ⟨kept, found, same⟩ := distinct_covers later fresh
          exact ⟨kept, List.mem_cons_of_mem _ found, same⟩

/-- A module exports the symbol of every kernel that it was made for. -/
theorem symbol_exported {kernels : List Kernel} {made : ModuleSource} {kernel : Kernel}
    (found : ofKernels? kernels = some made) (member : kernel ∈ kernels) :
    kernel.symbol ∈ made.symbols := by
  obtain ⟨kept, listed, same⟩ := distinct_covers member List.not_mem_nil
  unfold ofKernels? at found
  split at found
  · cases found
  · cases found
    have symbols : kept.symbol = kernel.symbol := congrArg kernelSymbol same
    exact symbols ▸ List.mem_map_of_mem listed

end DeviceKernels.ModuleSource
