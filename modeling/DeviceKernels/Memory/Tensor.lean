import DeviceKernels.Descriptor.Layout
import DeviceKernels.Memory.HostElement
import DeviceKernels.Memory.Pool

/-
Dense tensors in pooled memory. The elements of a tensor are little-endian and lie one after
another.
-/

namespace DeviceKernels

inductive TensorError where
  | memory (error : MemoryError)
  | elementMismatch (actual requested : ElementType)
  deriving DecidableEq, Repr

def TensorError.message : TensorError → String
  | memory error => error.message
  | elementMismatch actual requested =>
      "Tensor element type mismatch: tensor holds " ++ actual.shortName ++ ", requested " ++
        requested.shortName

structure Tensor where
  buffer : Buffer
  element : ElementType
  shape : List Nat
  deriving DecidableEq, Repr

namespace Tensor

/-- The product with one more factor, as long as it is a 64-bit word. -/
def checkedTimes (product : Option Nat) (extent : Nat) : Option Nat :=
  product.bind fun value =>
    if value * extent ≤ Number.maxWord64 then some (value * extent) else none

/-- The number of elements of a shape that has some. -/
def checkedElements (shape : List Nat) : Except MemoryError Nat :=
  match shape.foldl checkedTimes (some 1) with
  | none => .error (.invalidSize Number.maxWord64)
  | some elements =>
      if shape.isEmpty || elements == 0 then .error (.invalidSize 0) else .ok elements

def elements (tensor : Tensor) : Nat := tensor.shape.foldl (· * ·) 1

def byteSize (tensor : Tensor) : Nat := tensor.buffer.length

variable {Device : Type} [DeviceAllocator Device]

/-- Puts bytes into a fresh buffer; the buffer goes back if they cannot be written. -/
def place (pool : Pool Device) (element : ElementType) (shape : List Nat) (size : Nat)
    (bytes : Bytes) : Except MemoryError Tensor × Pool Device :=
  match pool.allocate size with
  | (.error error, pool) => (.error error, pool)
  | (.ok buffer, pool) =>
      match pool.write buffer bytes with
      | .ok pool => (.ok ⟨buffer, element, shape⟩, pool)
      | .error error => (.error error, pool.giveBack buffer)

/-- Moves elements to the device. The shape must have just as many. -/
def upload (pool : Pool Device) (host : HostElement) (data : List host.Value) (shape : List Nat) :
    Except MemoryError Tensor × Pool Device :=
  match checkedElements shape with
  | .error error => (.error error, pool)
  | .ok elements =>
      if elements != data.length then (.error (.invalidSize data.length), pool)
      else
        let bytes := data.flatMap host.write
        place pool host.element shape bytes.length bytes

/-- A tensor of zeros. -/
def zeros (pool : Pool Device) (element : ElementType) (shape : List Nat) :
    Except MemoryError Tensor × Pool Device :=
  match checkedElements shape with
  | .error error => (.error error, pool)
  | .ok elements =>
      match checkedWord (elements * element.byteSize) with
      | .error error => (.error error, pool)
      | .ok size => place pool element shape size (List.replicate size 0)

/-- A number of elements of one size, cut from the start of a byte string. -/
def cutElements (size : Nat) : (count : Nat) → Bytes → List Bytes
  | 0, _ => []
  | count + 1, bytes => bytes.take size :: cutElements size count (bytes.drop size)

/-- The elements of a byte string; bytes that make no whole element are left out. -/
def elementsOf (element : ElementType) (bytes : Bytes) : List Bytes :=
  cutElements element.byteSize (bytes.length / element.byteSize) bytes

/-- Moves the elements to the host, which must ask for the type that the tensor has. -/
def download (pool : Pool Device) (tensor : Tensor) (host : HostElement) :
    Except TensorError (List host.Value) := do
  if host.element != tensor.element then .error (.elementMismatch tensor.element host.element)
  else
    let bytes ← (pool.read tensor.buffer tensor.buffer.length).mapError .memory
    .ok ((elementsOf tensor.element bytes).map host.read)

/-- The leading dimension as a matrix whose rows are all dimensions but the innermost one. -/
def leadingDimension (tensor : Tensor) (layout : Layout) : Nat :=
  let columns := tensor.shape.getLastD 1
  layout.leadingDimension (tensor.elements / max columns 1) columns

end Tensor

end DeviceKernels
