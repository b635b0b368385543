import Casebook.Toml.Reading

/-! Tables as the statements of a document build them. A table can be opened by its own header,
by the header of a table in it, or by a dotted key; which of these it was decides what may still
be added to it.
-/

namespace Casebook.Toml

/-- What opened a table: its own header, a header that leads through it, or a dotted key. -/
inductive Opening where
  | header
  | passage
  | dottedKey
deriving DecidableEq, Repr

/-- What stands under a key: a value, a table, or the rows of an array of tables. -/
inductive Slot where
  | value (content : Value)
  | table (opening : Opening) (slots : List (String × Slot))
  | rows (tables : List (List (String × Slot)))

/-- A table that is being built. -/
abbrev Slots := List (String × Slot)

namespace Slots

/-- The slots with another one under a key that is there. -/
def replace (key : String) (slot : Slot) (slots : Slots) : Slots :=
  slots.map fun entry => if entry.1 = key then (key, slot) else entry

/-- Edits the table that a path leads to, opening tables that are missing on the way. Under an
array of tables the path goes on in the last row. A dotted key does not lead through a table with
a header of its own.
-/
def editAt (dotted : Bool) (edit : Opening → Slots → Except Fault Slots)
    : List String → Opening → Slots → Except Fault Slots
  | [], opening, slots => edit opening slots
  | key :: path, _, slots =>
    match slots.lookup key with
    | none => do
      let opening := if dotted then Opening.dottedKey else .passage
      let inner ← editAt dotted edit path opening []
      .ok (slots ++ [(key, .table opening inner)])
    | some (.value _) => .error (.notTable key)
    | some (.table opening inner) =>
      if dotted && opening = .header then .error (.duplicateKey key)
      else do
        let inner ← editAt dotted edit path opening inner
        .ok (slots.replace key (.table opening inner))
    | some (.rows tables) => do
      let last ← editAt dotted edit path .header (tables.getLastD [])
      .ok (slots.replace key (.rows (tables.dropLast ++ [last])))

/-- Opens a table by its header. A table that headers only led through may get its own. -/
def openTable (key : String) (slots : Slots) : Except Fault Slots :=
  match slots.lookup key with
  | none => .ok (slots ++ [(key, .table .header [])])
  | some (.table .passage inner) => .ok (slots.replace key (.table .header inner))
  | some _ => .error (.duplicateKey key)

/-- Opens one more row of an array of tables. -/
def openRow (key : String) (slots : Slots) : Except Fault Slots :=
  match slots.lookup key with
  | none => .ok (slots ++ [(key, .rows [[]])])
  | some (.rows tables) => .ok (slots.replace key (.rows (tables ++ [[]])))
  | some _ => .error (.duplicateKey key)

/-- Puts a value under a key that nothing is under yet. -/
def setValue (key : String) (content : Value) (slots : Slots) : Except Fault Slots :=
  match slots.lookup key with
  | none => .ok (slots ++ [(key, .value content)])
  | some _ => .error (.duplicateKey key)

/-- Puts a value at a key below a table. A dotted key sets values only in tables that dotted keys
have opened.
-/
def setValueAt (content : Value) : List String → Opening → Slots → Except Fault Slots
  | [], _, _ => .error (.expected "a key")
  | [key], _, slots => slots.setValue key content
  | first :: second :: path, opening, slots =>
    let key := (second :: path).getLastD second
    editAt true
      (fun reached inner =>
        if reached = .dottedKey then setValue key content inner
        else .error (.duplicateKey key))
      (first :: (second :: path).dropLast) opening slots

end Slots

mutual
/-- The value that a slot holds. -/
def Slot.toValue : Slot → Value
  | .value content => content
  | .table _ slots => .table (Slots.toTable slots)
  | .rows tables => .array (Slots.toRows tables)

/-- The entries of a table. -/
def Slots.toTable : List (String × Slot) → Table
  | [] => []
  | (key, slot) :: rest => (key, slot.toValue) :: Slots.toTable rest

/-- The rows of an array of tables as values. -/
def Slots.toRows : List (List (String × Slot)) → List Value
  | [] => []
  | slots :: rest => .table (Slots.toTable slots) :: Slots.toRows rest
end

end Casebook.Toml
