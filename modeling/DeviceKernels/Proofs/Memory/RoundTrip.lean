import DeviceKernels.Proofs.Memory.Placement

/-
What tensors hold. After any calls on others an uploaded tensor comes back bit for bit, and zeros
hide what their block held before.
-/

namespace DeviceKernels

namespace Tensor

variable {pool : Pool HostMemory} {tensor : Tensor} {element : ElementType} {host : HostElement}

end Tensor

namespace PoolHistory

variable {history : PoolHistory} {others : List Segment}

/-- What is uploaded comes back. -/
structure RoundTrips (history : PoolHistory) (host : HostElement) (data : List host.Value)
    (shape : List Nat) : Prop where
  /-- An upload succeeds exactly if the shape has as many elements as there are data, at least one,
  and there is a buffer for them. -/
  accepted : (∃ tensor, (Tensor.upload history.pool host data shape).1 = .ok tensor) ↔
    shape ≠ [] ∧ shape.prod = data.length ∧ 1 ≤ data.length ∧
      ∃ buffer, (history.pool.allocate (data.length * host.element.byteSize)).1 = .ok buffer
  /-- The tensor is what was asked for. -/
  fits : ∀ tensor, (Tensor.upload history.pool host data shape).1 = .ok tensor →
    tensor.Fits host.element shape
  /-- After any calls that do not concern the tensor it is downloaded as it was uploaded. -/
  returned : ∀ tensor, (Tensor.upload history.pool host data shape).1 = .ok tensor →
    ∀ commands : List TensorCommand, (∀ command ∈ commands, ¬command.Concerns history.lent) →
      tensor.download (history.performAll (.upload host data shape :: commands)).pool host =
        .ok data
  /-- It is never downloaded as values of another type. -/
  mismatched : ∀ tensor, (Tensor.upload history.pool host data shape).1 = .ok tensor →
    ∀ (pool : Pool HostMemory) (other : HostElement), other ≠ host →
      tensor.download pool other = .error (.elementMismatch host.element other.element)
  /-- An upload that fails leaves the number of live blocks. -/
  refused : ∀ error, (Tensor.upload history.pool host data shape).1 = .error error →
    (Tensor.upload history.pool host data shape).2.statistics.live = history.pool.statistics.live

/-- Tensors of zeros are zero. -/
structure Zeroes (history : PoolHistory) (element : ElementType) (shape : List Nat) : Prop where
  /-- The tensor is what was asked for. -/
  fits : ∀ tensor, (Tensor.zeros history.pool element shape).1 = .ok tensor →
    tensor.Fits element shape
  /-- After any calls that do not concern the tensor all its bytes are zero. -/
  read : ∀ tensor, (Tensor.zeros history.pool element shape).1 = .ok tensor →
    ∀ commands : List TensorCommand, (∀ command ∈ commands, ¬command.Concerns history.lent) →
      (history.performAll (.zeros element shape :: commands)).pool.read tensor.buffer
        tensor.byteSize = .ok (List.replicate (shape.prod * element.byteSize) 0)
  /-- It is downloaded as values without any bit. -/
  returned : ∀ tensor, (Tensor.zeros history.pool element shape).1 = .ok tensor →
    ∀ commands : List TensorCommand, (∀ command ∈ commands, ¬command.Concerns history.lent) →
      ∀ host : HostElement, host.element = element → ∃ values,
        tensor.download (history.performAll (.zeros element shape :: commands)).pool host =
            .ok values ∧
          values.length = shape.prod ∧ ∀ value ∈ values, host.pattern value = 0
  /-- An attempt that fails leaves the number of live blocks. -/
  refused : ∀ error, (Tensor.zeros history.pool element shape).1 = .error error →
    (Tensor.zeros history.pool element shape).2.statistics.live = history.pool.statistics.live

/-- An upload that is refused for its shape. -/
theorem RoundTrips.refusal {host : HostElement} {data : List host.Value} {shape : List Nat}
    {error : MemoryError} (unfit : ¬(Tensor.Counted shape ∧ shape.prod = data.length))
    (refused : Tensor.upload history.pool host data shape = (.error error, history.pool)) :
    history.RoundTrips host data shape := by
  have never : ∀ tensor, (Tensor.upload history.pool host data shape).1 ≠ .ok tensor := by
    rw [refused]
    exact fun tensor => nofun
  refine ⟨⟨?_, ?_⟩, ?_, ?_, ?_, ?_⟩
  · exact fun ⟨tensor, made⟩ => absurd made (never tensor)
  · rintro ⟨nonempty, count, some, buffer, granted⟩
    -- A request that is granted is for a word, so there is a word of elements too.
    have word := (Pool.allocate_length (Prod.ext granted rfl)).2
    have fewer := Nat.le_mul_of_pos_right data.length host.element.byteSizePositive
    exact absurd ⟨⟨nonempty, count ▸ some, count ▸ fewer.trans word⟩, count⟩ unfit
  · exact fun tensor made => absurd made (never tensor)
  · exact fun tensor made => absurd made (never tensor)
  · exact fun tensor made => absurd made (never tensor)
  · intro error _
    rw [refused]

/-- Zeros that are refused for their shape or their size. -/
theorem Zeroes.refusal {element : ElementType} {shape : List Nat} {error : MemoryError}
    (refused : Tensor.zeros history.pool element shape = (.error error, history.pool)) :
    history.Zeroes element shape := by
  have never : ∀ tensor, (Tensor.zeros history.pool element shape).1 ≠ .ok tensor := by
    rw [refused]
    exact fun tensor => nofun
  refine ⟨?_, ?_, ?_, ?_⟩
  · exact fun tensor made => absurd made (never tensor)
  · exact fun tensor made => absurd made (never tensor)
  · exact fun tensor made => absurd made (never tensor)
  · intro error _
    rw [refused]

end PoolHistory

namespace Tenancy

/-- Another user has memory before the pool. -/
def opening : List DeviceCommand := [.take 512, .pool (.create ⟨512, 2048, 256⟩)]

end Tenancy

end DeviceKernels
