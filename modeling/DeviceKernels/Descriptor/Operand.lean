import DeviceKernels.Descriptor.Element
import DeviceKernels.Descriptor.Layout

namespace DeviceKernels

/-- Why an operand is refused. -/
inductive OperandFault where
  | notPowerOfTwo (alignment : UInt32)
  | wideAccess (alignment : UInt32) (element : ElementType) (accessBits : UInt32)
  /-- The bits of an access are no word, and the program stopped. -/
  | stopped
  deriving DecidableEq, Repr

def OperandFault.message : OperandFault → String
  | notPowerOfTwo alignment =>
      "alignment " ++ Text.decimal alignment.toNat ++ " is not a power of two"
  | wideAccess alignment element accessBits =>
      "alignment " ++ Text.decimal alignment.toNat ++ " of " ++ element.shortName ++ " is a " ++
        Text.decimal accessBits.toNat ++ "-bit access (max 128)"
  | stopped => "attempt to multiply with overflow"

/-- The alignment counts elements. -/
structure OperandDescription where
  element : ElementType
  layout : Layout
  alignment : UInt32
  deriving DecidableEq, Repr, Inhabited

namespace OperandDescription

def isPowerOfTwo (number : Nat) : Bool := number != 0 && Nat.pow 2 number.log2 == number

/-- An alignment is a power of two, and one access fits 128 bits. -/
def validate (operand : OperandDescription) : Except OperandFault Unit :=
  if !isPowerOfTwo operand.alignment.toNat then .error (.notPowerOfTwo operand.alignment)
  else
    match Number.checkedProduct operand.alignment (UInt32.ofNat operand.element.bits) with
    | none => .error .stopped
    | some accessBits =>
        if 128 < accessBits then
          .error (.wideAccess operand.alignment operand.element accessBits)
        else .ok ()

/-- The extent of a matrix along its contiguous dimension. -/
def contiguous (operand : OperandDescription) (rows columns : Int) : Int :=
  operand.layout.leadingDimension rows columns

instance : JsonForm OperandDescription where
  toJson operand := .object
    [("element", toJson operand.element), ("layout", toJson operand.layout),
      ("alignment", toJson operand.alignment)]
  ofJson? json := do
    match ← json.record? ["element", "layout", "alignment"] with
    | [element, layout, alignment] =>
        some
          { element := ← Json.required? ElementType element
            layout := ← Json.required? Layout layout
            alignment := ← Json.required? UInt32 alignment }
    | _ => none

end OperandDescription

end DeviceKernels
