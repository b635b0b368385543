import Casebook.Marker
import Casebook.Text.Line

/-! Multi-line raw string literals and the scan that finds them in a text. Every line of a text
has one role: outside, opening, body or closing, or part of a literal that is never closed.
-/

namespace Casebook

/-- One closed literal: its delimiter, the number of its opening line counted from one, and the
lines between opening and closing, each followed by a line feed.
-/
structure Literal where
  delimiter : String
  line : Nat
  content : String
deriving DecidableEq, Repr, Inhabited

namespace Literal

/-- The number of lines of the content. -/
def lineCount (l : Literal) : Nat :=
  (Text.lines l.content.toList).length

/-- The literal is closed on the line after its opening. -/
def isEmpty (l : Literal) : Bool :=
  l.content.isEmpty

end Literal

/-- A literal that is still open where the text ends. -/
structure OpenLiteral where
  line : Nat
  delimiter : String
deriving DecidableEq, Repr, Inhabited

/-- What a text holds: its closed literals in order, and the one left open, if any. -/
structure Scan where
  literals : List Literal := []
  unterminated : Option OpenLiteral := none
deriving DecidableEq, Repr, Inhabited

namespace Scan

/-- Every literal of the text is closed. -/
def isClean (s : Scan) : Bool :=
  s.unterminated.isNone

/-- The scan with one more literal in front. -/
def cons (l : Literal) (s : Scan) : Scan :=
  { s with literals := l :: s.literals }

end Scan

/-- A literal whose closing line has not been met: where it was opened, with which delimiter,
and the lines read since, the latest first.
-/
structure Opened where
  line : Nat
  delimiter : List Char
  body : List (List Char) := []

namespace Opened

/-- The literal closed here. -/
def close (o : Opened) : Literal where
  delimiter := String.ofList o.delimiter
  line := o.line
  content := String.ofList (Text.unlines o.body.reverse)

/-- The literal left open. -/
def abandon (o : Opened) : OpenLiteral where
  line := o.line
  delimiter := String.ofList o.delimiter

/-- The literal with one more line of body. -/
def push (o : Opened) (line : List Char) : Opened :=
  { o with body := line :: o.body }

end Opened

namespace Marker

/-- Scans lines that are numbered from `number` on. Outside a literal a line can only open one;
inside, it either closes the literal or is kept as it stands, so openings there are text.
-/
def scanLines (m : Marker) : Nat → Option Opened → List (List Char) → Scan
  | _, none, [] => {}
  | _, some o, [] => { unterminated := some o.abandon }
  | number, none, line :: rest =>
    match m.opening? (Text.trim line) with
    | none => m.scanLines (number + 1) none rest
    | some delimiter =>
      m.scanLines (number + 1) (some { line := number, delimiter := delimiter }) rest
  | number, some o, line :: rest =>
    if m.closes o.delimiter (Text.trim line) then
      (m.scanLines (number + 1) none rest).cons o.close
    else m.scanLines (number + 1) (some (o.push line)) rest

/-- All literals of a text, its lines numbered from one. -/
def scan (m : Marker) (text : String) : Scan :=
  m.scanLines 1 none (Text.lines text.toList)

end Marker

/-- The contents of the closed literals of a text, for the marker that settings start from. -/
def contents (text : String) : List String :=
  (({} : Marker).scan text).literals.map Literal.content

end Casebook
