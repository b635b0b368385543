import Casebook.Toml.Document
import Casebook.Toml.Moment

/-! Tables that stand for dates and times. One key is reserved: a table that begins with it is
the date and time whose text stands under it, and what follows in the table does not matter.
-/

namespace Casebook.Toml

/-- The key that a table for a date and time begins with. -/
def momentKey : String := "$__toml_private_datetime"

/-- What follows a time of day. Unlike in a document, the hour may be 24. -/
def afterLooseTime? (text : List Char) : Option (List Char) := do
  let (_, text) ← readPart? 2 0 24 text
  let text ← after? ':' text
  let (_, text) ← readPart? 2 0 59 text
  let text ← after? ':' text
  let (_, text) ← readPart? 2 0 60 text
  match text with
  | '.' :: rest =>
    if rest.head?.any Char.isDigit then some (rest.dropWhile Char.isDigit) else none
  | text => some text

/-- The text is an offset from UTC of at most a day, or empty. -/
def isOffset : List Char → Bool
  | [] | ['Z'] | ['z'] => true
  | sign :: rest =>
    (sign = '+' || sign = '-')
      && ((do
        let (hours, text) ← readPart? 2 0 99 rest
        let text ← after? ':' text
        let (minutes, text) ← readPart? 2 0 99 text
        some (text.isEmpty && hours * 60 + minutes ≤ 24 * 60)).getD false)

/-- The text is a date, a time, or both, and then perhaps with an offset. -/
def isMoment (text : List Char) : Bool :=
  if (text.drop 2).head? = some ':' then afterLooseTime? text = some []
  else
    match afterDate? text with
    | none => false
    | some [] => true
    | some (between :: rest) =>
      (between = 'T' || between = 't' || between = ' ') && (afterLooseTime? rest).any isOffset

mutual
/-- The value with its tables for dates and times replaced by these. -/
def Value.resolve : Value → Except Fault Value
  | .array items => do .ok (.array (← resolveItems items))
  | .table [] => .ok (.table [])
  | .table ((key, first) :: rest) =>
    if key = momentKey then
      match first with
      | .string text =>
        if isMoment text.toList then .ok (.dateTime text)
        else .error (.expected "a date and time")
      | _ => .error (.expected "a date and time")
    else do
      let first ← first.resolve
      .ok (.table ((key, first) :: (← resolveEntries rest)))
  | value => .ok value

/-- The items of an array with their tables for dates and times replaced by these. -/
def resolveItems : List Value → Except Fault (List Value)
  | [] => .ok []
  | item :: rest => do
    let item ← item.resolve
    .ok (item :: (← resolveItems rest))

/-- The entries of a table with their tables for dates and times replaced by these. -/
def resolveEntries : List (String × Value) → Except Fault (List (String × Value))
  | [] => .ok []
  | (key, value) :: rest => do
    let value ← value.resolve
    .ok ((key, value) :: (← resolveEntries rest))
end

/-- The value that the text of a document is. -/
def Value.ofText (text : String) : Except Fault Value := do
  Value.resolve (.table (← Table.ofText text))

end Casebook.Toml
