import Casebook.Toml.Basic

/-! What stands between the tokens of a document: spaces, comments and line ends. A line ends
with a line feed, with or without a carriage return before it.
-/

namespace Casebook.Toml

/-- What follows the spaces that a text begins with. -/
def skipSpaces (text : List Char) : List Char :=
  text.dropWhile isSpace

/-- What follows the line end that a text begins with, if it does. -/
def afterLineEnd? : List Char → Option (List Char)
  | '\n' :: rest => some rest
  | '\r' :: '\n' :: rest => some rest
  | _ => none

/-- What follows the comment that a text begins with; a text that begins with none is left as it
is.
-/
def skipComment : List Char → List Char
  | '#' :: rest => rest.dropWhile isPlain
  | text => text

/-- What follows the end of the line, before which only spaces and a comment may stand. The end
of the document ends its last line.
-/
def endLine (text : List Char) : Except Fault (List Char) :=
  match skipComment (skipSpaces text) with
  | [] => .ok []
  | rest =>
    match afterLineEnd? rest with
    | some next => .ok next
    | none => .error (.expected "the end of the line")

/-- What follows the spaces, comments and line ends that a text begins with. Within a comment
everything up to the end of its line is skipped.
-/
def skipGaps (inComment : Bool) : List Char → List Char
  | [] => []
  | '\n' :: rest => skipGaps false rest
  | '\r' :: '\n' :: rest => skipGaps false rest
  | c :: rest =>
    if inComment then if isPlain c then skipGaps true rest else c :: rest
    else if isSpace c then skipGaps false rest
    else if c = '#' then skipGaps true rest
    else c :: rest

end Casebook.Toml
