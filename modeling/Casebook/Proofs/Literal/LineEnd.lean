import Casebook.Literal
import Casebook.Proofs.Text.Line
import Casebook.Proofs.Text.Trim

/-! How lines end does not matter to a scan. It looks at trimmed lines, so the last line may lack
its line feed and every line may have a carriage return that its line end takes along.
-/

namespace Casebook

/-- A line is trimmed to the same whether its end takes a carriage return along or not. -/
theorem Text.trim_lineOfPiece (line : List Char)
    : trim (lineOfPiece (line ++ ['\n'])) = trim line := by
  rw [lineOfPiece_append_feed]
  split
  next carriage =>
    obtain ⟨front, rfl⟩ := List.getLast?_eq_some_iff.mp carriage
    have blank : isAllBlank ['\r'] = true := by decide
    rw [List.dropLast_concat, trim_append_of_blank front blank]
  next => rfl

namespace Marker

/-- What is found in lines depends on the last of them only through what they are found to be in
every state, by induction on the lines before.
-/
theorem scanLines_append_congr {m : Marker} {ends ends' : List (List Char)}
    (same : ∀ number o, m.scanLines number o ends' = m.scanLines number o ends)
    (front : List (List Char)) (number : Nat) (o : Option Opened)
    : m.scanLines number o (front ++ ends') = m.scanLines number o (front ++ ends) := by
  induction front generalizing number o with
  | nil => exact same number o
  | cons line rest ih =>
    rw [List.cons_append, List.cons_append]
    cases o with
    | none =>
      rw [scanLines, scanLines]
      split
      next => exact ih (number + 1) none
      next => exact ih (number + 1) _
    | some o =>
      rw [scanLines, scanLines]
      split
      next => rw [ih (number + 1) none]
      next => exact ih (number + 1) _

/-- The last line of a text counts as what it is trimmed to. What it leaves in a literal that it
does not close is thrown away with it.
-/
theorem scanLines_singleton {m : Marker} {line line' : List Char}
    (same : Text.trim line' = Text.trim line) (number : Nat) (o : Option Opened)
    : m.scanLines number o [line'] = m.scanLines number o [line] := by
  cases o with
  | none => simp only [scanLines, same]
  | some o => simp only [scanLines, same, Opened.abandon, Opened.push]

/-- An empty line at the end neither opens nor closes a literal, since both take a bracket. -/
theorem scanLines_empty (m : Marker) (number : Nat) (o : Option Opened)
    : m.scanLines number o [[]] = m.scanLines number o [] := by
  have trimmed : Text.trim [] = [] := rfl
  cases o with
  | none =>
    have closed : m.opening? [] = none := by
      simp [opening?, delimiterAt?]
    simp only [scanLines, trimmed, closed]
  | some o =>
    have stays : m.closes o.delimiter [] = false := by
      simp [closes, closing]
    simp only [scanLines, trimmed, stays, Bool.false_eq_true, if_false, Opened.abandon, Opened.push]

/-- The same is found in a text with one more line feed at its end: there it ends the last line,
or begins an empty one.
-/
theorem scan_append_feed (m : Marker) (text : List Char)
    : m.scan (String.ofList (text ++ ['\n'])) = m.scan (String.ofList text) := by
  obtain ⟨ls, rest, rfl, clean, cleanRest⟩ := Text.exists_unlines_append text
  have ended : Text.lines (rest ++ ['\n']) = [Text.lineOfPiece (rest ++ ['\n'])] := by
    rw [Text.lines, Text.pieces_append_cons cleanRest]
    rfl
  rw [scan, scan, String.toList_ofList, String.toList_ofList, List.append_assoc,
    Text.lines_unlines_append clean, Text.lines_unlines_append clean, ended]
  refine scanLines_append_congr (fun number o => ?_) _ 1 none
  by_cases empty : rest = []
  · rw [empty]
    exact m.scanLines_empty number o
  · rw [Text.lines_of_not_mem cleanRest empty]
    exact scanLines_singleton (Text.trim_lineOfPiece rest) number o

theorem scan_append_newline (m : Marker) (text : String)
    : m.scan (text ++ "\n") = m.scan text := by
  have ended := m.scan_append_feed text.toList
  rw [String.ofList_append, String.ofList_toList] at ended
  exact ended

end Marker

end Casebook
