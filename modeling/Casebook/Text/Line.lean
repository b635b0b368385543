/-! Lines of a text. A line ends with a line feed or with the text, and one carriage return
right before its line feed belongs to the line's end, not to the line.
-/

namespace Casebook.Text

/-- A text cut after every line feed. Every piece but the last ends with a line feed, and no
piece is empty, so the pieces put together give the text back.
-/
def pieces (text : List Char) : List (List Char) :=
  text.foldr
    (fun c rest =>
      if c = '\n' then ['\n'] :: rest
      else
        match rest with
        | [] => [[c]]
        | piece :: more => (c :: piece) :: more)
    []

/-- A piece without its line feed, and without one carriage return before it. A piece with no
line feed is kept whole, so a carriage return that ends the text stays.
-/
def lineOfPiece (piece : List Char) : List Char :=
  if piece.getLast? = some '\n' then
    let body := piece.dropLast
    if body.getLast? = some '\r' then body.dropLast else body
  else piece

/-- The lines of a text, in order. No line follows the last line feed, so a text has as many
lines with or without it.
-/
def lines (text : List Char) : List (List Char) :=
  (pieces text).map lineOfPiece

/-- Lines written one after another, each followed by a line feed. -/
def unlines (ls : List (List Char)) : List Char :=
  ls.flatMap (· ++ ['\n'])

end Casebook.Text
