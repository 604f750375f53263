import DeviceKernels.Json.Form
import DeviceKernels.Number.Arithmetic
import DeviceKernels.Number.Word

/-
Extents of problems and launches. An extent is a record of 32-bit words, and its image in a
parameter block is the words one after the other.
-/

namespace DeviceKernels

/-- A matrix product has `m` rows, `n` columns and depth `k`. -/
structure GemmExtent where
  m : Int32
  n : Int32
  k : Int32
  deriving DecidableEq, Repr, Inhabited

namespace GemmExtent

/-- The number of multiplications; none where the program stops because it is no 64-bit word. -/
def products (extent : GemmExtent) : Option Int64 :=
  Number.Arithmetic.checked.word? (extent.m.toInt * extent.n.toInt * extent.k.toInt)

def isEmpty (extent : GemmExtent) : Bool := extent.m ≤ 0 || extent.n ≤ 0 || extent.k ≤ 0

def image (extent : GemmExtent) : Bytes :=
  Number.signedWord32 extent.m ++ Number.signedWord32 extent.n ++ Number.signedWord32 extent.k

/-- The extents with crosses between them. -/
def label (extent : GemmExtent) : String :=
  Text.signedDecimal extent.m.toInt ++ "x" ++ Text.signedDecimal extent.n.toInt ++ "x" ++
    Text.signedDecimal extent.k.toInt

instance : JsonForm GemmExtent where
  toJson extent := toJson [extent.m, extent.n, extent.k]
  ofJson? json :=
    match json.as? (List Int32) with
    | some [m, n, k] => some ⟨m, n, k⟩
    | _ => none

end GemmExtent

structure MatrixExtent where
  row : Int32
  column : Int32
  deriving DecidableEq, Repr, Inhabited

namespace MatrixExtent

def image (extent : MatrixExtent) : Bytes :=
  Number.signedWord32 extent.row ++ Number.signedWord32 extent.column

instance : JsonForm MatrixExtent where
  toJson extent := toJson [extent.row, extent.column]
  ofJson? json :=
    match json.as? (List Int32) with
    | some [row, column] => some ⟨row, column⟩
    | _ => none

end MatrixExtent

/-- Batch, height, width and channels of an image tensor. -/
structure TensorExtent where
  n : Int32
  h : Int32
  w : Int32
  c : Int32
  deriving DecidableEq, Repr, Inhabited

namespace TensorExtent

/-- The number of elements; none where the program stops because a product is no 64-bit word. -/
def elements (extent : TensorExtent) : Option Int64 := do
  let channel ← Number.Arithmetic.checked.word?
    (extent.n.toInt * extent.h.toInt * extent.w.toInt)
  Number.Arithmetic.checked.word? (channel.toInt * extent.c.toInt)

def image (extent : TensorExtent) : Bytes :=
  Number.signedWord32 extent.n ++ Number.signedWord32 extent.h ++
    Number.signedWord32 extent.w ++ Number.signedWord32 extent.c

instance : JsonForm TensorExtent where
  toJson extent := toJson [extent.n, extent.h, extent.w, extent.c]
  ofJson? json :=
    match json.as? (List Int32) with
    | some [n, h, w, c] => some ⟨n, h, w, c⟩
    | _ => none

end TensorExtent

/-- The extent of a grid of thread blocks or of a block of threads. -/
structure LaunchExtent where
  x : UInt32
  y : UInt32
  z : UInt32
  deriving DecidableEq, Repr, Inhabited

namespace LaunchExtent

def linear (x : UInt32) : LaunchExtent := ⟨x, 1, 1⟩

/-- The number of members, which can exceed the 64-bit words. -/
def volume (extent : LaunchExtent) : Nat := extent.x.toNat * extent.y.toNat * extent.z.toNat

def image (extent : LaunchExtent) : Bytes :=
  Number.word32 extent.x ++ Number.word32 extent.y ++ Number.word32 extent.z

instance : JsonForm LaunchExtent where
  toJson extent := toJson [extent.x, extent.y, extent.z]
  ofJson? json :=
    match json.as? (List UInt32) with
    | some [x, y, z] => some ⟨x, y, z⟩
    | _ => none

end LaunchExtent

end DeviceKernels
