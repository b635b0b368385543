import Casebook.Text.Blank

/-! Markers, the pieces of notation that bound a multi-line raw string literal. A line opens a
literal when it ends with the lead, a delimiter and the open bracket. The literal ends on the
first line that ends with the close bracket, the same delimiter and the tail.
-/

namespace Casebook

/-- How a raw string literal is opened and closed. The delimiter between lead and open bracket
is free, and has to come back between close bracket and tail.
-/
structure Marker where
  lead : String := "R\""
  openBracket : Char := '('
  closeBracket : Char := ')'
  tail : String := "\";"
deriving DecidableEq, Repr, Inhabited

/-- Why a marker cannot be used. -/
inductive MarkerFault where
  | emptyLead
  | blankBracket
  | tooLarge
deriving DecidableEq, Repr

namespace Marker

/-- The first fault of a marker. An empty lead would open a literal on every line that ends
with the bracket, and a blank bracket is trimmed away before it is looked for.
-/
def fault? (m : Marker) : Option MarkerFault :=
  if m.lead.isEmpty then some .emptyLead
  else if Text.isBlank m.openBracket || Text.isBlank m.closeBracket then some .blankBracket
  else none

/-- The delimiter of an opening that starts at the first character of `text` and takes all of
it: the lead, then a delimiter free of open brackets, then one open bracket.
-/
def delimiterAt? (m : Marker) (text : List Char) : Option (List Char) :=
  if m.lead.toList.isPrefixOf text then
    let rest := text.drop m.lead.toList.length
    let delimiter := rest.dropLast
    if rest.getLast? = some m.openBracket ∧ m.openBracket ∉ delimiter then some delimiter
    else none
  else none

/-- The delimiter of the leftmost opening that reaches the end of `text`. Starts are tried from
the left, so an earlier lead wins whenever the rest of the text is a delimiter for it.
-/
def opening? (m : Marker) : List Char → Option (List Char)
  | [] => m.delimiterAt? []
  | c :: rest =>
    match m.delimiterAt? (c :: rest) with
    | some delimiter => some delimiter
    | none => m.opening? rest

/-- The text that closes a literal opened with `delimiter`. -/
def closing (m : Marker) (delimiter : List Char) : List Char :=
  m.closeBracket :: delimiter ++ m.tail.toList

/-- A trimmed line closes the literal when it ends with the closing text. -/
def closes (m : Marker) (delimiter trimmed : List Char) : Bool :=
  (m.closing delimiter).isSuffixOf trimmed

end Marker

end Casebook
