import Casebook.Toml.Basic

/-! Values as records of settings. A record is a table with the fields under their names, or an
array with the fields in their order; fields that it does not have keep their defaults, and what
it has beyond its fields does not matter.
-/

namespace Casebook.Toml.Value

/-- The value can be a record. A date and time is one without any of the fields. -/
def isRecord : Value → Bool
  | .table _ | .array _ | .dateTime _ => true
  | .string _ | .integer _ | .float _ | .boolean _ => false

/-- The value of a field with a name and a position. -/
def field? (v : Value) (name : String) (position : Nat) : Option Value :=
  match v with
  | .table entries => entries.lookup name
  | .array items => items[position]?
  | _ => none

/-- A field as what it is to be, or its default where the record does not have it. -/
def field (v : Value) (name : String) (position : Nat) (decode : Value → Except Fault α)
    (default : α) : Except Fault α :=
  match v.field? name position with
  | some value => decode value
  | none => .ok default

/-- The value as a text. -/
def asText : Value → Except Fault String
  | .string text => .ok text
  | _ => .error (.expected "a string")

/-- The value as a single character. -/
def asChar : Value → Except Fault Char
  | .string text =>
    match text.toList with
    | [c] => .ok c
    | _ => .error (.expected "a single character")
  | _ => .error (.expected "a single character")

/-- The value as a flag. -/
def asFlag : Value → Except Fault Bool
  | .boolean flag => .ok flag
  | _ => .error (.expected "a boolean")

/-- The value as a number of things. -/
def asCount : Value → Except Fault Nat
  | .integer (.ofNat n) => .ok n
  | _ => .error (.expected "a number that is not negative")

/-- The value as texts. -/
def asTexts : Value → Except Fault (List String)
  | .array items => items.mapM asText
  | _ => .error (.expected "an array of strings")

/-- The value as a record, whose fields are read by `decode`. -/
def asRecord (decode : Value → Except Fault α) (v : Value) : Except Fault α :=
  if v.isRecord then decode v else .error (.expected "a table")

end Casebook.Toml.Value
