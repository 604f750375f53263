import DeviceKernels.Descriptor.Element
import DeviceKernels.Number.Float

namespace DeviceKernels

open Number

/-- The half precision formats are kept as patterns. -/
inductive Scalar where
  | half (pattern : UInt16)
  | brain (pattern : UInt16)
  | single (value : Binary32)
  | double (value : Binary64)
  | integer (value : Int32)
  deriving DecidableEq, Repr

namespace Scalar

/-- Eight-bit integers have no scalar form. A number for the tensor float type travels in single
precision. -/
def ofBinary64? (element : ElementType) (value : Binary64) : Option Scalar :=
  match element with
  | .f16 => some (.half (UInt16.ofNat (value.convert BinaryFormat.half)))
  | .bf16 => some (.brain (UInt16.ofNat (value.convert BinaryFormat.brain)))
  | .f32 => some (.single value.toBinary32)
  | .tf32 => some (.single value.toBinary32)
  | .f64 => some (.double value)
  | .s32 => some (.integer value.toInt32)
  | .s8 => none
  | .u8 => none

def byteSize : Scalar → Nat
  | half _ => 2
  | brain _ => 2
  | single _ => 4
  | integer _ => 4
  | double _ => 8

def image : Scalar → Bytes
  | half pattern => littleEndian 2 pattern.toNat
  | brain pattern => littleEndian 2 pattern.toNat
  | single value => word32 value.bits
  | double value => word64 value.bits
  | integer value => signedWord32 value

theorem lengthImage (scalar : Scalar) : scalar.image.length = scalar.byteSize := by
  cases scalar <;> simp [image, byteSize, word32, word64, signedWord32]

end Scalar

end DeviceKernels
