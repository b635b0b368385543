import Casebook.Toml.Basic

/-! The written form of documents. Values come before the tables of a table, each table has a
header of its own, and a string takes the first form that can hold it without escapes.
-/

namespace Casebook.Toml

/-- The form of a string. -/
inductive Form where
  | basic
  | literal
  | basicLines
  | literalLines
deriving DecidableEq, Repr

namespace Form

/-- A form without escapes holds a control character only as the tab or, over several lines, as
the line feed.
-/
def isControl (c : Char) : Bool :=
  !isPlain c && c ≠ '\n'

/-- No more than `most` of the character stand next to each other. -/
def runsWithin (c : Char) (most : Nat) : Nat → List Char → Bool
  | _, [] => true
  | run, d :: rest =>
    if d = c then run < most && runsWithin c most (run + 1) rest
    else runsWithin c most 0 rest

/-- The first form that holds a text without escapes, or else the one with double quotes. -/
def ofText (text : List Char) : Form :=
  let plain := !text.any isControl
  let escape := text.contains '\\'
  let lines := text.contains '\n'
  if plain && !escape && !lines && !text.contains '"' then .basic
  else if plain && !lines && !text.contains '\'' then .literal
  else if plain && !escape && runsWithin '"' 2 0 text then .basicLines
  else if plain && runsWithin '\'' 2 0 text then .literalLines
  else if lines then .basicLines
  else .basic

/-- The quotes around a string. -/
def quotes : Form → List Char
  | basic => ['"']
  | literal => ['\'']
  | basicLines => ['"', '"', '"']
  | literalLines => ['\'', '\'', '\'']

end Form

/-- The digits of the number of a character, four of them. -/
def fourHexDigits (c : Char) : List Char :=
  let digits := (Nat.toDigits 16 c.toNat).map Char.toUpper
  List.replicate (4 - digits.length) '0' ++ digits

/-- The form of a character that is no double quote between double quotes. -/
def escapeChar (overLines : Bool) (c : Char) : List Char :=
  if c = '\x08' then ['\\', 'b']
  else if c = '\t' then ['\\', 't']
  else if c = '\n' then if overLines then ['\n'] else ['\\', 'n']
  else if c = '\x0c' then ['\\', 'f']
  else if c = '\r' then ['\\', 'r']
  else if c = '\\' then ['\\', '\\']
  else if isPlain c then [c]
  else '\\' :: 'u' :: fourHexDigits c

/-- The form of a text between double quotes. Over several lines two quotes may stand next to
each other, of which `run` stand right before the text.
-/
def escape (overLines : Bool) : Nat → List Char → List Char
  | _, [] => []
  | run, c :: rest =>
    if c = '"' then
      if overLines && run < 2 then '"' :: escape overLines (run + 1) rest
      else '\\' :: '"' :: escape overLines 0 rest
    else escapeChar overLines c ++ escape overLines 0 rest

/-- The form of a text with the quotes around it. A text of several lines begins on a line of its
own.
-/
def quote (text : List Char) : List Char :=
  let form := Form.ofText text
  let start := if text.contains '\n' then ['\n'] else []
  match form with
  | .basic => form.quotes ++ escape false 0 text ++ form.quotes
  | .literal => form.quotes ++ text ++ form.quotes
  | .basicLines => form.quotes ++ start ++ escape true 0 text ++ form.quotes
  | .literalLines => form.quotes ++ start ++ text ++ form.quotes

/-- The form of a key, with quotes only where it needs them. -/
def keyText (key : String) : List Char :=
  if !key.isEmpty && key.toList.all isBare then key.toList
  else '"' :: escape false 0 key.toList ++ ['"']

mutual
/-- The form of a value. The items of an array stand on lines of their own if there are two or
more.
-/
def Value.render : Value → List Char
  | .string text => quote text.toList
  | .integer number => (toString number).toList
  | .float text => text.toList
  | .boolean flag => (if flag then "true" else "false").toList
  | .dateTime text => text.toList
  | .array [] => ['[', ']']
  | .array [item] => '[' :: item.render ++ [']']
  | .array items => '[' :: '\n' :: renderItems items ++ [']']
  | .table [] => ['\x7b', '\x7d']
  | .table entries => '\x7b' :: ' ' :: renderEntries entries ++ [' ', '\x7d']

/-- Items on lines of their own, with a comma after each. -/
def renderItems : List Value → List Char
  | [] => []
  | item :: rest => "    ".toList ++ item.render ++ ',' :: '\n' :: renderItems rest

/-- Entries on one line, with a comma between any two. -/
def renderEntries : List (String × Value) → List Char
  | [] => []
  | [(key, value)] => keyText key ++ " = ".toList ++ value.render
  | (key, value) :: rest =>
    keyText key ++ " = ".toList ++ value.render ++ ", ".toList ++ renderEntries rest
end

/-- The lines of the entries that are no tables. -/
def renderValues : Table → List Char
  | [] => []
  | (_, .table _) :: rest => renderValues rest
  | (key, value) :: rest =>
    keyText key ++ " = ".toList ++ value.render ++ '\n' :: renderValues rest

/-- The header of a table. -/
def renderHeader (path : List String) : List Char :=
  '[' :: List.intercalate ['.'] (path.map keyText) ++ [']', '\n']

mutual
/-- The blocks of a table that is no document: its own values under its header, and then its
tables.
-/
def Value.blocks (path : List String) : Value → List (List Char)
  | .table entries => (renderHeader path ++ renderValues entries) :: entryBlocks path entries
  | _ => []

/-- The blocks of all tables among some entries. -/
def entryBlocks (path : List String) : List (String × Value) → List (List Char)
  | [] => []
  | (key, value) :: rest => value.blocks (path ++ [key]) ++ entryBlocks path rest
end

mutual
/-- Every integer of the value is one of 64 bits. -/
def Value.isInRange : Value → Bool
  | .integer number => isInteger number
  | .array items => itemsInRange items
  | .table entries => entriesInRange entries
  | .string _ | .float _ | .boolean _ | .dateTime _ => true

/-- Every integer of the items is one of 64 bits. -/
def itemsInRange : List Value → Bool
  | [] => true
  | item :: rest => item.isInRange && itemsInRange rest

/-- Every integer of the entries is one of 64 bits. -/
def entriesInRange : List (String × Value) → Bool
  | [] => true
  | (_, value) :: rest => value.isInRange && entriesInRange rest
end

/-- The text of a document, with an empty line between any two of its blocks. -/
def Table.text (t : Table) : List Char :=
  let values := renderValues t
  let blocks := entryBlocks [] t
  List.intercalate ['\n'] (if values.isEmpty then blocks else values :: blocks)

/-- The text of a document whose integers are all in range. -/
def Table.render (t : Table) : Except Fault String :=
  if entriesInRange t then .ok (String.ofList t.text)
  else .error (.outOfRange "an integer of more than 64 bits")

end Casebook.Toml
