import Casebook.Proofs.Text.Line

/-! Carriage returns at the ends of lines. A text may have them before as few or as many of its line
feeds as it likes: its lines stay what they are, as long as no line feed gets a second one.
-/

namespace Casebook.Text

/-- A text with a carriage return put before the line feeds at chosen places, other than those that
have one before them already. Places are counted from `place` on, and `before` is the character in
front of the text.
-/
def withReturns (chosen : Nat → Bool) : Nat → Option Char → List Char → List Char
  | _, _, [] => []
  | place, before, c :: rest =>
    if c = '\n' ∧ before ≠ some '\r' ∧ chosen place = true then
      '\r' :: '\n' :: withReturns chosen (place + 1) (some c) rest
    else c :: withReturns chosen (place + 1) (some c) rest

variable {chosen : Nat → Bool} {place : Nat} {before : Option Char} {line : List Char}

/-- Nothing is put into what stands before the first line feed, by induction on it. -/
theorem withReturns_append (clean : '\n' ∉ line) (rest : List Char)
    : withReturns chosen place before (line ++ rest)
      = line
        ++ withReturns chosen (place + line.length) (line.getLast?.or before) rest := by
  induction line generalizing place before with
  | nil => rfl
  | cons c line ih =>
    rw [List.mem_cons, not_or] at clean
    have last : (c :: line).getLast?.or before = line.getLast?.or (some c) := by
      rw [List.getLast?_cons]
      cases line.getLast? <;> rfl
    have counted : place + (c :: line).length = place + 1 + line.length := by
      rw [List.length_cons]
      omega
    rw [List.cons_append, withReturns, if_neg fun feed => clean.1 feed.1.symm, ih clean.2, last,
      counted, List.cons_append]

theorem lines_append_cons (clean : '\n' ∉ line) (rest : List Char)
    : lines (line ++ '\n' :: rest) = lineOfPiece (line ++ ['\n']) :: lines rest := by
  rw [lines, pieces_append_cons clean, List.map_cons, lines]

/-- A carriage return before its line feed belongs to the end of the line, so a line that has none
there is the same with one.
-/
theorem lines_append_return (clean : '\n' ∉ line) (bare : line.getLast? ≠ some '\r')
    (rest : List Char)
    : lines (line ++ '\r' :: '\n' :: rest) = lines (line ++ '\n' :: rest) := by
  have split : line ++ '\r' :: '\n' :: rest = (line ++ ['\r']) ++ '\n' :: rest := by
    rw [List.append_assoc, List.singleton_append]
  have cleanReturn : '\n' ∉ line ++ ['\r'] := by
    rw [List.mem_append, not_or]
    exact ⟨clean, by decide⟩
  rw [split, lines_append_cons cleanReturn, lines_append_cons clean, lineOfPiece_append_feed,
    lineOfPiece_append_feed, List.getLast?_concat, if_pos rfl, if_neg bare, List.dropLast_concat]

/-- The lines of a text are the same whichever line feeds get a carriage return, by induction on the
lines that end with one.
-/
theorem lines_withReturns (chosen : Nat → Bool) (place : Nat) (before : Option Char)
    (text : List Char)
    : lines (withReturns chosen place before text) = lines text := by
  obtain ⟨ls, rest, rfl, clean, cleanRest⟩ := exists_unlines_append text
  induction ls generalizing place before with
  | nil =>
    have whole : withReturns chosen place before (rest ++ []) = _ :=
      withReturns_append cleanRest []
    rw [List.append_nil, withReturns, List.append_nil] at whole
    exact congrArg lines whole
  | cons line more ih =>
    have cleanLine : '\n' ∉ line := clean line List.mem_cons_self
    have later (place : Nat) :=
      ih place (some '\n') fun other member => clean other (List.mem_cons_of_mem line member)
    rw [unlines_cons, List.append_assoc, List.cons_append, withReturns_append cleanLine,
      withReturns]
    split
    next put =>
      have bare : line.getLast? ≠ some '\r' := by
        intro last
        rw [last] at put
        exact put.2.1 rfl
      rw [lines_append_return cleanLine bare, lines_append_cons cleanLine,
        lines_append_cons cleanLine, later]
    next => rw [lines_append_cons cleanLine, lines_append_cons cleanLine, later]

/-- A line feed that has a carriage return before it gets no second one. -/
example : withReturns (fun _ => true) 0 none "a\r\nb\n\n".toList = "a\r\nb\r\n\r\n".toList := by
  decide

end Casebook.Text
