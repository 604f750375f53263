import DeviceKernels.Memory.Pool
import DeviceKernels.Proofs.Keyed

/-
Lists of blocks. The operations on the free list are described up to the order of the blocks: an
insertion adds one block, an erasure takes one away, and a join turns two blocks into one.
-/

namespace DeviceKernels

/-- The first address behind a block. -/
def Block.stop (block : Block) : Nat := block.address + block.size

/-- The first address behind a segment. -/
def Segment.stop (segment : Segment) : Nat := segment.base + segment.size

/-- The sizes of some blocks together. -/
def blockBytes (blocks : List Block) : Nat := Number.total (blocks.map Block.size)

@[simp] theorem blockBytes_nil : blockBytes [] = 0 := rfl

@[simp] theorem blockBytes_cons (block : Block) (blocks : List Block) :
    blockBytes (block :: blocks) = block.size + blockBytes blocks := rfl

@[simp] theorem blockBytes_append (first second : List Block) :
    blockBytes (first ++ second) = blockBytes first + blockBytes second := by
  simp [blockBytes]

/-- The order of the blocks does not change their size. -/
theorem blockBytes_perm {first second : List Block} (same : first.Perm second) :
    blockBytes first = blockBytes second :=
  Number.totalPerm (same.map Block.size)

namespace Pool

/-- An insertion adds the block and nothing else. -/
theorem insertFree_perm (block : Block) (blocks : List Block) :
    (insertFree block blocks).Perm (block :: blocks) := by
  induction blocks with
  | nil => exact .refl _
  | cons first rest ih =>
      simp only [insertFree]
      split
      · exact .refl _
      · exact (ih.cons first).trans (.swap block first rest)

/-- With distinct addresses an erasure takes exactly the one block away. -/
theorem eraseAt_perm {block : Block} {blocks : List Block} (member : block ∈ blocks)
    (distinct : (blocks.map Block.address).Nodup) :
    blocks.Perm (block :: eraseAt block.address blocks) :=
  Keyed.filter_perm Block.address member distinct

/-- A block that is found is there, at the address. -/
theorem blockAt?_some {address : Nat} {blocks : List Block} {block : Block}
    (found : blockAt? address blocks = some block) : block ∈ blocks ∧ block.address = address :=
  Keyed.find?_some Block.address found

/-- With distinct addresses every block is found at its address. -/
theorem blockAt?_mem {block : Block} {blocks : List Block} (member : block ∈ blocks)
    (distinct : (blocks.map Block.address).Nodup) :
    blockAt? block.address blocks = some block :=
  Keyed.find?_mem Block.address member distinct

/-- An erasure does not hide the blocks at other addresses. -/
theorem blockAt?_eraseAt_other {address other : Nat} (blocks : List Block)
    (different : address ≠ other) :
    blockAt? address (eraseAt other blocks) = blockAt? address blocks :=
  Keyed.find?_filter_other Block.address blocks different

/-- The best block is there, is large enough, and none that is large enough is smaller. -/
theorem bestFit?_some {size : Nat} {blocks : List Block} {block : Block}
    (found : bestFit? size blocks = some block) :
    block ∈ blocks ∧ size ≤ block.size ∧
      ∀ other ∈ blocks, size ≤ other.size → block.size ≤ other.size := by
  have member := List.minOn?_mem found
  simp only [List.mem_filter, decide_eq_true_eq] at member
  refine ⟨member.1, member.2, ?_⟩
  intro other otherMember enough
  have candidate : other ∈ blocks.filter fun block => size ≤ block.size := by
    simpa using ⟨otherMember, enough⟩
  have least := List.apply_get_minOn?_le_of_mem (f := Block.size) candidate
  rw [bestFit?] at found
  simpa only [found, Option.get_some] using least

end Pool

end DeviceKernels
