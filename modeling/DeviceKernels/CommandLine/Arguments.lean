import DeviceKernels.Text.Numeral

/-
The arguments of a command. A flag stands for itself, and an option is followed by its value.
-/

namespace DeviceKernels

/-- An option at the end of the arguments has no value. -/
structure MissingValue where
  name : String
  deriving DecidableEq, Repr

def MissingValue.message (fault : MissingValue) : String := "Missing value for " ++ fault.name

namespace Arguments

def hasFlag (arguments : List String) (name : String) : Bool := arguments.contains name

/-- The argument after the first occurrence of a name. -/
def value? (arguments : List String) (name : String) : Except MissingValue (Option String) :=
  match arguments.dropWhile (· != name) with
  | [] => .ok none
  | [_] => .error ⟨name⟩
  | _ :: value :: _ => .ok (some value)

end Arguments

end DeviceKernels
