import DeviceKernels.Descriptor.Element
import DeviceKernels.Number.Float

/-
Host values that have a counterpart on the device. A value travels as the little-endian bytes of
its bits, so numbers keep every bit, those of invalid numbers included.
-/

namespace DeviceKernels

open Number

/-- A type of host values. The tensor float type has none. -/
inductive HostElement where
  | s8
  | u8
  | s32
  | f16
  | bf16
  | f32
  | f64
  deriving DecidableEq, Repr

namespace HostElement

def all : List HostElement := [s8, u8, s32, f16, bf16, f32, f64]

/-- The element type on the device. -/
def element : HostElement → ElementType
  | s8 => .s8
  | u8 => .u8
  | s32 => .s32
  | f16 => .f16
  | bf16 => .bf16
  | f32 => .f32
  | f64 => .f64

def ofElement? (element : ElementType) : Option HostElement :=
  all.find? fun host => host.element == element

/-- The half precision formats are kept as patterns. -/
def Value : HostElement → Type
  | s8 => Int8
  | u8 => UInt8
  | s32 => Int32
  | f16 => UInt16
  | bf16 => UInt16
  | f32 => Binary32
  | f64 => Binary64

/-- The bits of a value as a number. -/
def pattern : (host : HostElement) → host.Value → Nat
  | s8, value => (Int8.toUInt8 value).toNat
  | u8, value => UInt8.toNat value
  | s32, value => (Int32.toUInt32 value).toNat
  | f16, value => UInt16.toNat value
  | bf16, value => UInt16.toNat value
  | f32, value => (Binary32.bits value).toNat
  | f64, value => (Binary64.bits value).toNat

def ofPattern : (host : HostElement) → Nat → host.Value
  | s8, pattern => (UInt8.ofNat pattern).toInt8
  | u8, pattern => UInt8.ofNat pattern
  | s32, pattern => (UInt32.ofNat pattern).toInt32
  | f16, pattern => UInt16.ofNat pattern
  | bf16, pattern => UInt16.ofNat pattern
  | f32, pattern => Binary32.mk (UInt32.ofNat pattern)
  | f64, pattern => Binary64.mk (UInt64.ofNat pattern)

def write (host : HostElement) (value : host.Value) : Bytes :=
  littleEndian host.element.byteSize (host.pattern value)

def read (host : HostElement) (bytes : Bytes) : host.Value := host.ofPattern (ofLittleEndian bytes)

@[simp] theorem lengthWrite (host : HostElement) (value : host.Value) :
    (host.write value).length = host.element.byteSize :=
  lengthLittleEndian _ _

end HostElement

end DeviceKernels
