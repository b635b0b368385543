import Casebook.Text.Split

/-! Names of files and directories. A name is what may stand between two separators of a path:
not empty, without separator and NUL, and neither of the two names that mean a direction.
-/

namespace Casebook.Tree

/-- The text can be the name of an entry. -/
def isName (text : String) : Bool :=
  !text.isEmpty && text.toList.all (fun c => c ≠ '/' && c ≠ '\x00') && text ≠ "." && text ≠ ".."

/-- The name of an entry within its directory. -/
structure Name where
  text : String
  valid : isName text = true
deriving DecidableEq, Repr

namespace Name

/-- The name with a given text, if the text can be one. -/
def ofText? (text : String) : Option Name :=
  if h : isName text then some ⟨text, h⟩ else none

/-- A name goes before another when its text does, code point by code point. UTF-8 keeps this
order, so it is also the order of their bytes.
-/
def before (a b : Name) : Bool :=
  a.text.toList < b.text.toList

/-- Puts a name into a list in order; a name that is in the list already is not put in again. -/
def insertSorted (n : Name) : List Name → List Name
  | [] => [n]
  | m :: rest =>
    if n = m then m :: rest
    else if n.before m then n :: m :: rest
    else m :: insertSorted n rest

/-- The names of a list in order, each once. -/
def sorted (names : List Name) : List Name :=
  names.foldr insertSorted []

end Name

/-- Where an entry is: the names that lead to it from the top, the innermost first. The top
itself is the empty location.
-/
abbrev Location := List Name

/-- A step along a path: stay, for a dot or for nothing between two separators, go up, or go into
the entry with a name.
-/
inductive Step where
  | here
  | blank
  | up
  | into (name : Name)
deriving DecidableEq, Repr

/-- The step that a part between two separators stands for. -/
def Step.ofPart (part : List Char) : Step :=
  if part.isEmpty then .blank
  else if part = ['.', '.'] then .up
  else
    match Name.ofText? (String.ofList part) with
    | some n => .into n
    | none => .here

/-- The steps of a path, from its start to its end. -/
def steps (path : List Char) : List Step :=
  (Text.split '/' path).map Step.ofPart

end Casebook.Tree
