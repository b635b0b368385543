/-! Cutting a text at a character. -/

namespace Casebook.Text

/-- The parts of a text between the occurrences of a character, in order. There is one part more
than there are occurrences, so the empty text has one empty part.
-/
def split (separator : Char) (text : List Char) : List (List Char) :=
  text.foldr
    (fun c parts =>
      if c = separator then [] :: parts
      else
        match parts with
        | [] => [[c]]
        | part :: more => (c :: part) :: more)
    [[]]

/-- What stands before and after the first occurrence of a character; a text without it stands
before.
-/
def cut (separator : Char) (text : List Char) : List Char × List Char :=
  (text.takeWhile (· ≠ separator), (text.dropWhile (· ≠ separator)).drop 1)

/-- Texts put together with a character between any two. -/
def join (separator : Char) : List (List Char) → List Char
  | [] => []
  | [part] => part
  | part :: more => part ++ separator :: join separator more

end Casebook.Text
