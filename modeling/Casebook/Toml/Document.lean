import Casebook.Toml.Layout

/-! Reading documents. A document is a sequence of statements, each on lines of its own: headers,
which open a table or a row of an array of tables, and pairs, which set a value in the table that
was opened last.
-/

namespace Casebook.Toml

/-- A statement of a document. -/
inductive Statement where
  | tableHeader (key : List String)
  | rowHeader (key : List String)
  | pair (key : List String) (value : Value)

namespace Statement

/-- Reads the rest of a header after its brackets. -/
def readHeader (text : List Char) : Except Fault (Statement × List Char) :=
  match text with
  | '[' :: rest => do
    match ← readKey rest with
    | (key, ']' :: ']' :: rest) => .ok (.rowHeader key, ← endLine rest)
    | _ => .error (.expected "two closing brackets")
  | rest => do
    match ← readKey rest with
    | (key, ']' :: rest) => .ok (.tableHeader key, ← endLine rest)
    | _ => .error (.expected "a closing bracket")

/-- Reads a statement up to the end of its line. -/
def read : List Char → Except Fault (Statement × List Char)
  | '[' :: rest => readHeader rest
  | text => do
    let ((key, value), rest) ← readPair readValue text
    .ok (.pair key value, ← endLine rest)

/-- Reads all statements of a text, which are fewer than `fuel` lines. -/
def readAll : Nat → List Char → Except Fault (List Statement)
  | 0, _ => .error (.expected "the end of the document")
  | fuel + 1, text =>
    match skipSpaces text with
    | [] => .ok []
    | c :: rest =>
      if c = '#' ∨ c = '\n' ∨ c = '\r' then do
        readAll fuel (← endLine (c :: rest))
      else do
        let (statement, rest) ← read (c :: rest)
        .ok (statement :: (← readAll fuel rest))

end Statement

/-- A document that is being read: its tables, and the key of the table opened last. -/
structure Draft where
  slots : Slots := []
  current : List String := []

namespace Draft

/-- Opens what a header stands for. -/
def openAt (d : Draft) (key : List String)
    (add : String → Slots → Except Fault Slots) : Except Fault Draft := do
  match key.getLast? with
  | none => .error (.expected "a key")
  | some last =>
    let slots ← Slots.editAt false (fun _ slots => add last slots) key.dropLast .header d.slots
    .ok { slots := slots, current := key }

/-- Does what a statement says. -/
def apply (d : Draft) : Statement → Except Fault Draft
  | .tableHeader key => d.openAt key Slots.openTable
  | .rowHeader key => d.openAt key Slots.openRow
  | .pair key value => do
    let slots ← Slots.editAt false (Slots.setValueAt value key) d.current .header d.slots
    .ok { d with slots := slots }

end Draft

/-- The document that a text is. A byte order mark may stand before it. -/
def Table.ofText (text : String) : Except Fault Table := do
  let text :=
    match text.toList with
    | '\ufeff' :: rest => rest
    | text => text
  let statements ← Statement.readAll (text.length + 1) text
  let draft ← statements.foldlM Draft.apply {}
  .ok (Slots.toTable draft.slots)

end Casebook.Toml
