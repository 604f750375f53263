import DeviceKernels.Json.Form

namespace DeviceKernels

inductive ElementType where
  | s8
  | u8
  | s32
  | f16
  | bf16
  | tf32
  | f32
  | f64
  deriving DecidableEq, Repr, Inhabited

namespace ElementType

def all : List ElementType := [s8, u8, s32, f16, bf16, tf32, f32, f64]

def bits : ElementType → Nat
  | s8 => 8
  | u8 => 8
  | f16 => 16
  | bf16 => 16
  | s32 => 32
  | tf32 => 32
  | f32 => 32
  | f64 => 64

def byteSize (element : ElementType) : Nat := element.bits / 8

/-- The name in procedural kernel names. -/
def shortName : ElementType → String
  | s8 => "s8"
  | u8 => "u8"
  | s32 => "s32"
  | f16 => "f16"
  | bf16 => "bf16"
  | tf32 => "tf32"
  | f32 => "f32"
  | f64 => "f64"

/-- The type in an emitted template instantiation. -/
def tag : ElementType → String
  | s8 => "int8_t"
  | u8 => "uint8_t"
  | s32 => "int32_t"
  | f16 => "cutlass::half_t"
  | bf16 => "cutlass::bfloat16_t"
  | tf32 => "cutlass::tfloat32_t"
  | f32 => "float"
  | f64 => "double"

def isFloat : ElementType → Bool
  | s8 => false
  | u8 => false
  | s32 => false
  | f16 => true
  | bf16 => true
  | tf32 => true
  | f32 => true
  | f64 => true

def isInteger (element : ElementType) : Bool := !element.isFloat

def ofShortName? (name : String) : Option ElementType :=
  all.find? fun element => element.shortName == name

instance : Named ElementType := ⟨all, shortName⟩

theorem memAll (element : ElementType) : element ∈ all := by
  cases element <;> decide

theorem bitsPositive (element : ElementType) : 0 < element.bits := by
  cases element <;> decide

theorem byteSizePositive (element : ElementType) : 0 < element.byteSize := by
  cases element <;> decide

end ElementType

end DeviceKernels
