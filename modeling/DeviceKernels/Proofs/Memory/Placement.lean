import DeviceKernels.Proofs.Memory.Failure
import DeviceKernels.Proofs.Memory.Isolation
import DeviceKernels.Proofs.Memory.Tensors

/-
Tensors as buffers. To make a tensor is to request a buffer and to write through it, so a program
with tensors does nothing to a pool that one with buffers cannot do.
-/

namespace DeviceKernels

/-- The calls of a program that has tensors and buffers of one pool. A tensor is dropped by its
buffer. -/
inductive TensorCommand where
  | buffer (command : PoolCommand)
  | upload (host : HostElement) (data : List host.Value) (shape : List Nat)
  | zeros (element : ElementType) (shape : List Nat)

namespace TensorCommand

/-- The call gives the loan back or writes through it. A new tensor has a loan of its own. -/
def Concerns (number : Nat) : TensorCommand → Prop
  | buffer command => command.Concerns number
  | upload .. => False
  | zeros .. => False

/-- The calls on buffers that a call comes down to when its tensor becomes the loan with a number. -/
def calls (number : Nat) : TensorCommand → List PoolCommand
  | buffer command => [command]
  | upload host data _ =>
      [.allocate (data.length * host.element.byteSize), .write number (data.flatMap host.write)]
  | zeros element shape =>
      [.allocate (shape.prod * element.byteSize),
        .write number (List.replicate (shape.prod * element.byteSize) 0)]

end TensorCommand

/-- The tensor has the element type and the shape, and as many bytes as its elements have. -/
structure Tensor.Fits (tensor : Tensor) (element : ElementType) (shape : List Nat) : Prop where
  typed : tensor.element = element
  shaped : tensor.shape = shape
  sized : tensor.byteSize = tensor.elements * element.byteSize

/-- A buffer has the length that was asked for, which is a 64-bit word. -/
theorem Pool.allocate_length {pool after : Pool HostMemory} {size : Nat} {buffer : Buffer}
    (granted : pool.allocate size = (.ok buffer, after)) :
    buffer.length = size ∧ size ≤ Number.maxWord64 := by
  rw [allocate] at granted
  split at granted
  · cases granted
  · split at granted
    case h_1 => cases granted
    case h_2 rounded word =>
      rw [checkedWord] at word
      split at word
      case isTrue small =>
        split at granted <;> cases granted
        exact ⟨rfl, (Number.leRoundUp (by decide) size).trans small⟩
      case isFalse => cases word

namespace PoolHistory

variable {history middle after : PoolHistory} {others : List Segment} {loan : Loan}

/-- The history after an attempt to make a tensor of some bytes, by a request and a write. -/
def keep (history : PoolHistory) (bytes : Bytes) :
    Except MemoryError Tensor × Pool HostMemory → PoolHistory
  | (.error _, pool) => history.record pool
  | (.ok tensor, pool) =>
      { history with
        pool
        loans := ⟨history.lent, tensor.buffer, [bytes]⟩ :: history.loans
        lent := history.lent + 1
        levels := pool.used :: pool.used :: history.levels }

def perform (history : PoolHistory) : TensorCommand → PoolHistory
  | .buffer command => history.step command
  | .upload host data shape =>
      history.keep (data.flatMap host.write) (Tensor.upload history.pool host data shape)
  | .zeros element shape =>
      history.keep (List.replicate (shape.prod * element.byteSize) 0)
        (Tensor.zeros history.pool element shape)

def stepAll (history : PoolHistory) (calls : List PoolCommand) : PoolHistory :=
  calls.foldl step history

def performAll (history : PoolHistory) (commands : List TensorCommand) : PoolHistory :=
  commands.foldl perform history

/-- The next loan has a number that no loan has. -/
theorem Lending.loan?_next (lending : history.Lending others) : history.loan? history.lent = none := by
  rw [loan?, List.find?_eq_none]
  intro loan member
  simpa using Nat.ne_of_lt (lending.earlier loan member)

/-- The history after a request that was granted. -/
theorem allocate_granted {size : Nat} {buffer : Buffer} {lent : Pool HostMemory}
    (granted : history.pool.allocate size = (.ok buffer, lent)) :
    history.allocate size = ⟨lent, ⟨history.lent, buffer, []⟩ :: history.loans, history.lent + 1,
      history.returned, lent.used :: history.levels⟩ := by
  rw [allocate, granted]
  rfl

/-- A tensor is placed exactly if its buffer is lent: the write succeeds. -/
theorem Lending.place_cases (lending : history.Lending others) {size : Nat} {bytes : Bytes}
    (within : bytes.length ≤ size) (element : ElementType) (shape : List Nat) :
    (∃ error pool, history.pool.allocate size = (.error error, pool) ∧
        Tensor.place history.pool element shape size bytes = (.error error, pool)) ∨
      ∃ buffer lent pool, history.pool.allocate size = (.ok buffer, lent) ∧
        lent.write buffer bytes = .ok pool ∧
          Tensor.place history.pool element shape size bytes =
            (.ok ⟨buffer, element, shape⟩, pool) := by
  have next := lending.step (.allocate size)
  rw [Tensor.place]
  rcases outcome : history.pool.allocate size with ⟨error | buffer, lent⟩
  · exact .inl ⟨error, lent, rfl, rfl⟩
  · rw [PoolHistory.step, allocate_granted outcome] at next
    have room : bytes.length ≤ buffer.length := (Pool.allocate_length outcome).1.symm ▸ within
    obtain ⟨allocation, -, -, written⟩ := next.write_patches List.mem_cons_self room
    dsimp only at written
    exact .inr ⟨buffer, lent, _, rfl, written, by simp only [written]⟩

/-- A placement is a request and a write. -/
theorem Lending.keep_place (lending : history.Lending others) {size : Nat} {bytes : Bytes}
    (within : bytes.length ≤ size) (element : ElementType) (shape : List Nat) :
    history.keep bytes (Tensor.place history.pool element shape size bytes) =
      (history.step (.allocate size)).step (.write history.lent bytes) := by
  rcases lending.place_cases within element shape with
    ⟨error, pool, failed, refused⟩ | ⟨buffer, lent, pool, granted, written, placed⟩
  · have absent : (history.record pool).loan? history.lent = none := lending.loan?_next
    rw [refused, PoolHistory.step, PoolHistory.step, allocate, failed]
    simp only [keep, absent, Option.elim_none]
  · -- The other loans have smaller numbers, so only the new one notes the bytes.
    have unnoted : history.loans.map (Loan.noting history.lent bytes) = history.loans := by
      refine (List.map_congr_left ?_).trans (List.map_id _)
      intro loan member
      exact Loan.noting_other bytes (Nat.ne_of_lt (lending.earlier loan member))
    have same : pool.used = lent.used := by
      rcases lent.write_cases buffer bytes with ⟨error, refused⟩ | ⟨base, offset, done⟩
      · cases refused.symm.trans written
      · cases done.symm.trans written
        rfl
    rw [placed, PoolHistory.step, PoolHistory.step, allocate_granted granted]
    simp only [loan?, List.find?_cons_of_pos, beq_self_eq_true, Option.elim_some, PoolHistory.write,
      record, written, keep, List.map_cons, unnoted, Loan.noting, if_true, same]

/-- A call is refused before it reaches the pool, or it comes down to calls on buffers. -/
theorem Lending.perform_cases (lending : history.Lending others) (command : TensorCommand) :
    history.perform command = history.record history.pool ∨
      history.perform command = history.stepAll (command.calls history.lent) := by
  cases command with
  | buffer command => exact .inr rfl
  | upload host data shape =>
      rw [PoolHistory.perform]
      rcases Tensor.upload_outcome history.pool host data shape with
        ⟨-, size, refused⟩ | ⟨-, -, placed⟩
      · exact .inl (by rw [refused]; rfl)
      · rw [placed]
        exact .inr (lending.keep_place (Tensor.length_flatMap_write host data).le _ _)
  | zeros element shape =>
      rw [PoolHistory.perform]
      rcases Tensor.zeros_outcome history.pool element shape with
        ⟨-, size, refused⟩ | ⟨-, -, refused⟩ | ⟨-, -, placed⟩
      · exact .inl (by rw [refused]; rfl)
      · exact .inl (by rw [refused]; rfl)
      · rw [placed]
        exact .inr (lending.keep_place List.length_replicate.le _ _)

/-- Calls on buffers keep the loans in order. -/
theorem Lending.stepAll (lending : history.Lending others) (calls : List PoolCommand) :
    (history.stepAll calls).Lending others := by
  induction calls generalizing history with
  | nil => exact lending
  | cons call rest ih => exact ih (lending.step call)

/-- Calls on buffers keep the free list tidy. -/
theorem Lending.stepAll_tidy (lending : history.Lending others) (tidy : Tidy history.pool.free)
    (calls : List PoolCommand) : Tidy (history.stepAll calls).pool.free := by
  induction calls generalizing history with
  | nil => exact tidy
  | cons call rest ih => exact ih (lending.step call) (lending.step_tidy tidy call)

/-- A call on tensors keeps the loans in order. -/
theorem Lending.perform (lending : history.Lending others) (command : TensorCommand) :
    (history.perform command).Lending others := by
  rcases lending.perform_cases command with refused | done
  · rw [refused]
    exact lending.note
  · rw [done]
    exact lending.stepAll _

/-- A call on tensors keeps the free list tidy. -/
theorem Lending.perform_tidy (lending : history.Lending others) (tidy : Tidy history.pool.free)
    (command : TensorCommand) : Tidy (history.perform command).pool.free := by
  rcases lending.perform_cases command with refused | done
  · rw [refused]
    exact tidy
  · rw [done]
    exact lending.stepAll_tidy tidy _

/-- Calls on tensors keep the loans in order and the free list tidy. -/
theorem Lending.performAll (lending : history.Lending others) (tidy : Tidy history.pool.free)
    (commands : List TensorCommand) :
    (history.performAll commands).Lending others ∧
      Tidy (history.performAll commands).pool.free := by
  induction commands generalizing history with
  | nil => exact ⟨lending, tidy⟩
  | cons command rest ih => exact ih (lending.perform command) (lending.perform_tidy tidy command)

/-- The loan is still there and reads as before. -/
structure Keeps (history after : PoolHistory) (loan : Loan) : Prop where
  member : loan ∈ after.loans
  reads : ∀ length ≤ loan.buffer.length,
    after.pool.read loan.buffer length = history.pool.read loan.buffer length

theorem Keeps.trans (first : history.Keeps middle loan) (second : middle.Keeps after loan) :
    history.Keeps after loan where
  member := second.member
  reads := fun length within => (second.reads length within).trans (first.reads length within)

end PoolHistory

end DeviceKernels
