import DeviceKernels.Text.Numeral

/-
Values of configuration files in the TOML format: texts, 64-bit integers, booleans, arrays and
tables. Numbers with a fraction and dates are no settings and are not among them.
-/

namespace DeviceKernels

/-- The names of a table are distinct. -/
inductive Toml where
  | text (value : String)
  | integer (value : Int)
  | boolean (value : Bool)
  | array (items : List Toml)
  | table (fields : List (String × Toml))
  deriving Inhabited

namespace Toml

def text? : Toml → Option String
  | text value => some value
  | _ => none

def boolean? : Toml → Option Bool
  | boolean value => some value
  | _ => none

/-- An integer between zero and a limit. -/
def natural? (limit : Nat) : Toml → Option Nat
  | integer value => if 0 ≤ value ∧ value ≤ limit then some value.toNat else none
  | _ => none

/-- An array of texts. -/
def texts? : Toml → Option (List String)
  | array items => items.mapM text?
  | _ => none

/-- The fields of a record by name, or by position when the record is an array. A table may leave
out fields and has no others; an array may end early and may go on. -/
def record? (names : List String) : Toml → Option (List (Option Toml))
  | array items => some ((List.range names.length).map fun index => items[index]?)
  | table fields =>
      if fields.all fun field => names.contains field.1 then some (names.map fun name => fields.lookup name)
      else none
  | _ => none

/-- A field of a record that may be missing. -/
def optional? {Value : Type} (read : Toml → Option Value) :
    Option Toml → Option (Option Value)
  | none => some none
  | some value => (read value).map some

/-- Puts a value under a path of names. What stands on the way is a table. -/
def put (value : Toml) : List String → Toml → Toml
  | [], _ => value
  | name :: rest, table fields =>
      let inner := put value rest ((fields.lookup name).getD (table []))
      table (fields.filter (fun field => field.1 != name) ++ [(name, inner)])
  | _ :: _, other => other

end Toml

end DeviceKernels
