import Casebook.Text.Line
import Casebook.Text.Split

/-! Lines of a text and the text of some lines. No line holds a line feed, and lines that hold
none are read back one for one from their text.
-/

namespace Casebook.Text

theorem pieces_cons_feed (rest : List Char)
    : pieces ('\n' :: rest) = ['\n'] :: pieces rest := by
  simp [pieces]

/-- Another character joins the first of the pieces behind it, or is a piece of its own where
there is none.
-/
theorem pieces_cons_other {c : Char} (other : c ≠ '\n') (rest : List Char)
    : pieces (c :: rest) = (c :: (pieces rest).headD []) :: (pieces rest).tail := by
  rw [pieces, List.foldr_cons, if_neg other, ← pieces]
  cases pieces rest <;> rfl

/-- What stands before the first line feed is a piece of its own, by induction on it. -/
theorem pieces_append_cons {line : List Char} (clean : '\n' ∉ line) (rest : List Char)
    : pieces (line ++ '\n' :: rest) = (line ++ ['\n']) :: pieces rest := by
  induction line with
  | nil => exact pieces_cons_feed rest
  | cons c line ih =>
    rw [List.mem_cons, not_or] at clean
    rw [List.cons_append, pieces_cons_other (fun same => clean.1 same.symm), ih clean.2]
    rfl

/-- A piece holds a line feed at its end or not at all, by induction on the text. -/
theorem not_mem_dropLast_of_mem_pieces {text piece : List Char} (member : piece ∈ pieces text)
    : '\n' ∉ piece.dropLast := by
  induction text generalizing piece with
  | nil => cases member
  | cons c text ih =>
    by_cases feed : c = '\n'
    · rw [feed, pieces_cons_feed, List.mem_cons] at member
      rcases member with rfl | later
      · simp
      · exact ih later
    · rw [pieces_cons_other feed] at member
      cases known : pieces text with
      | nil =>
        rw [known] at member
        rw [List.mem_singleton.mp member]
        simp
      | cons first more =>
        rw [known] at ih member
        rcases List.mem_cons.mp member with rfl | later
        · cases first with
          | nil => simp
          | cons next tail =>
            rw [List.headD_cons, List.dropLast_cons_cons, List.mem_cons, not_or]
            exact ⟨fun same => feed same.symm, ih List.mem_cons_self⟩
        · exact ih (List.mem_cons_of_mem first later)

/-- The line of a piece is clean of line feeds once the piece is clean before its end. -/
theorem not_mem_lineOfPiece {piece : List Char} (clean : '\n' ∉ piece.dropLast)
    : '\n' ∉ lineOfPiece piece := by
  unfold lineOfPiece
  by_cases ended : piece.getLast? = some '\n'
  · simp only [ended, if_true]
    split
    · exact fun member => clean (List.dropLast_subset _ member)
    · exact clean
  · rw [if_neg ended]
    intro member
    rcases List.eq_nil_or_concat piece with rfl | ⟨front, last, rfl⟩
    · simp at member
    · rw [List.concat_eq_append] at clean ended member
      rw [List.dropLast_concat] at clean
      rw [List.getLast?_concat, Option.some.injEq] at ended
      rcases List.mem_append.mp member with before | atEnd
      · exact clean before
      · exact ended (List.mem_singleton.mp atEnd).symm

/-- No line of a text holds a line feed. -/
theorem not_mem_of_mem_lines {text line : List Char} (member : line ∈ lines text)
    : '\n' ∉ line := by
  obtain ⟨piece, known, rfl⟩ := List.mem_map.mp member
  exact not_mem_lineOfPiece (not_mem_dropLast_of_mem_pieces known)

theorem unlines_cons (line : List Char) (rest : List (List Char))
    : unlines (line :: rest) = line ++ '\n' :: unlines rest := by
  simp [unlines]

/-- A line feed takes one carriage return before it along. -/
theorem lineOfPiece_append_feed (line : List Char)
    : lineOfPiece (line ++ ['\n'])
      = if line.getLast? = some '\r' then line.dropLast else line := by
  simp [lineOfPiece]

/-- Clean lines at the start of a text are read back one for one, each losing at most the carriage
return that it ends with, and the lines of what stands behind them follow. By induction on the
clean lines.
-/
theorem lines_unlines_append {ls : List (List Char)} (clean : ∀ line ∈ ls, '\n' ∉ line)
    (rest : List Char)
    : lines (unlines ls ++ rest)
      = (ls.map fun line => lineOfPiece (line ++ ['\n'])) ++ lines rest := by
  induction ls with
  | nil => rfl
  | cons line more ih =>
    have first : '\n' ∉ line := clean line List.mem_cons_self
    have later := ih fun other member => clean other (List.mem_cons_of_mem line member)
    unfold lines at later ⊢
    rw [unlines_cons, List.append_assoc, List.cons_append, pieces_append_cons first,
      List.map_cons, later, List.map_cons, List.cons_append]

/-- Clean lines are read back one for one from their text. -/
theorem lines_unlines {ls : List (List Char)} (clean : ∀ line ∈ ls, '\n' ∉ line)
    : lines (unlines ls) = ls.map fun line => lineOfPiece (line ++ ['\n']) := by
  have all := lines_unlines_append clean []
  have noneLeft : lines [] = [] := rfl
  rwa [noneLeft, List.append_nil, List.append_nil] at all

/-- Clean lines that end with no carriage return are read back from their text as they are. -/
theorem lines_unlines_of_bare {ls : List (List Char)}
    (bare : ∀ line ∈ ls, '\n' ∉ line ∧ line.getLast? ≠ some '\r')
    : lines (unlines ls) = ls := by
  rw [lines_unlines fun line member => (bare line member).1]
  refine (List.map_congr_left fun line member => ?_).trans (List.map_id _)
  rw [lineOfPiece_append_feed, if_neg (bare line member).2]
  rfl

/-- The text of clean lines has as many lines as were written. -/
theorem length_lines_unlines {ls : List (List Char)} (clean : ∀ line ∈ ls, '\n' ∉ line)
    : (lines (unlines ls)).length = ls.length := by
  rw [lines_unlines clean, List.length_map]

/-- Every text is some clean lines and a rest without a line feed, by induction on it. -/
theorem exists_unlines_append (text : List Char)
    : ∃ ls rest,
        text = unlines ls ++ rest
        ∧ (∀ line ∈ ls, '\n' ∉ line)
        ∧ '\n' ∉ rest := by
  induction text with
  | nil => exact ⟨[], [], rfl, by simp, by simp⟩
  | cons c text ih =>
    obtain ⟨ls, rest, rfl, clean, cleanRest⟩ := ih
    by_cases feed : c = '\n'
    · refine ⟨[] :: ls, rest, ?_, ?_, cleanRest⟩
      · rw [unlines_cons, feed, List.nil_append, List.cons_append]
      · simpa using clean
    -- Another character begins the first of the lines, or the rest where there is none.
    · have other : '\n' ≠ c := fun same => feed same.symm
      cases ls with
      | nil => exact ⟨[], c :: rest, rfl, by simp, by simp [other, cleanRest]⟩
      | cons line more =>
        refine ⟨(c :: line) :: more, rest, ?_, ?_, cleanRest⟩
        · rw [unlines_cons, unlines_cons, List.cons_append, List.cons_append]
        · simpa [other] using clean

theorem lines_of_not_mem {text : List Char} (clean : '\n' ∉ text) (nonempty : text ≠ [])
    : lines text = [text] := by
  have onePiece : pieces text = [text] := by
    induction text with
    | nil => exact absurd rfl nonempty
    | cons c rest ih =>
      rw [List.mem_cons, not_or] at clean
      rw [pieces_cons_other fun same => clean.1 same.symm]
      cases rest with
      | nil => rfl
      | cons d more => rw [ih clean.2 (List.cons_ne_nil d more), List.headD_cons, List.tail_cons]
  have notEnded : text.getLast? ≠ some '\n' := fun last => clean (List.mem_of_getLast? last)
  rw [lines, onePiece, List.map_singleton, lineOfPiece, if_neg notEnded]

/-- Lines with a line feed between any two lack only the last line feed, by induction on them. -/
theorem join_append_feed {ls : List (List Char)} (nonempty : ls ≠ [])
    : join '\n' ls ++ ['\n'] = unlines ls := by
  induction ls with
  | nil => exact absurd rfl nonempty
  | cons line rest ih =>
    rw [unlines_cons]
    cases rest with
    | nil => rfl
    | cons next more =>
      have joined : join '\n' (line :: next :: more) = line ++ '\n' :: join '\n' (next :: more) := rfl
      rw [joined, List.append_assoc, List.cons_append, ih (List.cons_ne_nil next more)]

/-- The lines of a text that ends with a line feed, or is empty, are not touched by what is put
behind it.
-/
theorem lines_append {text : List Char} (ended : text = [] ∨ text.getLast? = some '\n')
    (more : List Char)
    : lines (text ++ more) = lines text ++ lines more := by
  obtain ⟨ls, rest, rfl, clean, cleanRest⟩ := exists_unlines_append text
  obtain rfl : rest = [] := by
    rcases ended with empty | feed
    · exact (List.append_eq_nil_iff.mp empty).2
    · rcases List.eq_nil_or_concat rest with none | ⟨front, last, rfl⟩
      · exact none
      · rw [List.concat_eq_append, ← List.append_assoc, List.getLast?_concat,
          Option.some.injEq] at feed
        exact absurd (by simp [feed]) cleanRest
  rw [List.append_nil, lines_unlines_append clean, lines_unlines clean]

end Casebook.Text
