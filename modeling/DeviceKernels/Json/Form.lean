import DeviceKernels.Json.Value

/-
Types with a JSON form. A record is an object, or the array of its fields in order; an enumeration
is the name of its value.
-/

namespace DeviceKernels

class JsonForm (Value : Type) where
  toJson : Value → Json
  ofJson? : Json → Option Value

export JsonForm (toJson)

/-- A finite type whose values have names. -/
class Named (Value : Type) where
  all : List Value
  name : Value → String

def Named.ofName? {Value : Type} [Named Value] (name : String) : Option Value :=
  Named.all.find? fun value => Named.name value == name

namespace Json

def natural? (limit : Nat) : Json → Option Nat
  | .integer value => if 0 ≤ value ∧ value ≤ limit then some value.toNat else none
  | _ => none

def bounded? (lower upper : Int) : Json → Option Int
  | .integer value => if lower ≤ value ∧ value ≤ upper then some value else none
  | _ => none

def text? : Json → Option String
  | .text value => some value
  | _ => none

def boolean? : Json → Option Bool
  | .boolean value => some value
  | _ => none

def array? : Json → Option (List Json)
  | .array items => some items
  | _ => none

def isNull : Json → Bool
  | .null => true
  | _ => false

/-- The fields of a record by name, or by position when the record is an array. -/
def record? (names : List String) : Json → Option (List (Option Json))
  | .array items => if items.length == names.length then some (items.map some) else none
  | .object fields => some (names.map fun name => (Json.object fields).field? name)
  | _ => none

/-- Reads a value of any type with a JSON form. -/
def as? (Value : Type) [JsonForm Value] (json : Json) : Option Value := JsonForm.ofJson? json

/-- A field that must be there. -/
def required? (Value : Type) [JsonForm Value] (field : Option Json) : Option Value :=
  field.bind (as? Value)

/-- A field that may be missing or null. -/
def optional? (Value : Type) [JsonForm Value] : Option Json → Option (Option Value)
  | none => some none
  | some .null => some none
  | some json => (as? Value json).map some

end Json

instance : JsonForm Json := ⟨id, some⟩

instance : JsonForm Bool := ⟨.boolean, Json.boolean?⟩

instance : JsonForm String := ⟨.text, Json.text?⟩

instance : JsonForm UInt8 :=
  ⟨fun value => .ofNat value.toNat, fun json => (json.natural? 255).map UInt8.ofNat⟩

instance : JsonForm UInt32 :=
  ⟨fun value => .ofNat value.toNat, fun json => (json.natural? (UInt32.size - 1)).map UInt32.ofNat⟩

instance : JsonForm UInt64 :=
  ⟨fun value => .ofNat value.toNat, fun json => (json.natural? (UInt64.size - 1)).map UInt64.ofNat⟩

instance : JsonForm Int32 :=
  ⟨fun value => .integer value.toInt,
    fun json => (json.bounded? Int32.minValue.toInt Int32.maxValue.toInt).map Int32.ofInt⟩

instance : JsonForm Int64 :=
  ⟨fun value => .integer value.toInt,
    fun json => (json.bounded? Int64.minValue.toInt Int64.maxValue.toInt).map Int64.ofInt⟩

/-- A natural number is read as a 64-bit word. -/
instance : JsonForm Nat := ⟨.ofNat, Json.natural? (UInt64.size - 1)⟩

instance {Value : Type} [JsonForm Value] : JsonForm (List Value) :=
  ⟨fun values => .array (values.map toJson),
    fun json => json.array?.bind fun items => items.mapM (Json.as? Value)⟩

instance {Value : Type} [JsonForm Value] : JsonForm (Option Value) :=
  ⟨Json.ofOption toJson, fun json => Json.optional? Value (some json)⟩

instance {Value : Type} [Named Value] : JsonForm Value :=
  ⟨fun value => .text (Named.name value), fun json => json.text?.bind Named.ofName?⟩

end DeviceKernels
