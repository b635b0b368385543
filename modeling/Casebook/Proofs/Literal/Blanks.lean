import Mathlib.Data.List.Forall2
import Casebook.Proofs.Literal.Layout
import Casebook.Proofs.Literal.LineEnd
import Casebook.Proofs.Text.Return

/-! Blanks around lines and characters at their ends. Which lines open, fill and close literals is
told by the trimmed lines alone. How lines end does not even change what the literals hold.
-/

namespace Casebook

/-- Two literals are opened in the same line, with the same delimiter, and have as many lines. What
their lines hold may differ.
-/
structure Literal.Resembles (l l' : Literal) : Prop where
  delimiter : l.delimiter = l'.delimiter
  line : l.line = l'.line
  lineCount : l.lineCount = l'.lineCount

/-- The same is found but for what the lines of the literals hold. -/
structure Scan.Resembles (s s' : Scan) : Prop where
  literals : List.Forall₂ Literal.Resembles s.literals s'.literals
  unterminated : s.unterminated = s'.unterminated

/-- Bodies with as many lines make literals that resemble each other. -/
theorem Literal.resembles_ofBody (number : Nat) (delimiter : List Char)
    {body body' : List (List Char)} (clean : ∀ line ∈ body, '\n' ∉ line)
    (clean' : ∀ line ∈ body', '\n' ∉ line) (length : body.length = body'.length)
    : (ofBody number delimiter body).Resembles (ofBody number delimiter body') := by
  refine ⟨rfl, rfl, ?_⟩
  rw [lineCount_ofBody number delimiter clean, lineCount_ofBody number delimiter clean', length]

namespace Marker

variable {m : Marker} {delimiter line line' : List Char}

theorem OpensLine.of_trim_eq (opens : m.OpensLine delimiter line)
    (same : Text.trim line = Text.trim line')
    : m.OpensLine delimiter line' := by
  rw [OpensLine, ← same]
  exact opens

theorem ClosesLine.of_trim_eq (closes : m.ClosesLine delimiter line)
    (same : Text.trim line = Text.trim line')
    : m.ClosesLine delimiter line' := by
  rw [ClosesLine, ← same]
  exact closes

/-- Lines that are trimmed to the same close a literal together or not at all. -/
theorem forall_not_closesLine_of_trim_eq {body body' : List (List Char)}
    (same : body.map Text.trim = body'.map Text.trim)
    (inside : ∀ line ∈ body, ¬ m.ClosesLine delimiter line)
    : ∀ line ∈ body', ¬ m.ClosesLine delimiter line := by
  intro line' member closes
  obtain ⟨line, inBody, trimmed⟩ := List.mem_map.mp (same ▸ List.mem_map_of_mem member)
  exact inside line inBody (closes.of_trim_eq trimmed.symm)

/-- Lines that are trimmed to the same have readings that resemble each other, by induction on the
first. Block by block the same lines are taken off.
-/
theorem Reads.exists_resembles {number : Nat} {ls ls' : List (List Char)} {found : Scan}
    (reading : m.Reads number ls found) (clean : ∀ line ∈ ls, '\n' ∉ line)
    (clean' : ∀ line ∈ ls', '\n' ∉ line) (same : ls.map Text.trim = ls'.map Text.trim)
    : ∃ found', m.Reads number ls' found' ∧ found.Resembles found' := by
  induction reading generalizing ls' with
  | done =>
    obtain rfl := List.map_eq_nil_iff.mp same.symm
    exact ⟨{}, .done, .nil, rfl⟩
  | @outside number line rest found closed _ ih =>
    obtain ⟨line', rest', rfl, trimmed, below⟩ := List.map_eq_cons_iff.mp same.symm
    obtain ⟨found', reading', alike⟩ :=
      ih (fun other member => clean other (List.mem_cons_of_mem line member))
        (fun other member => clean' other (List.mem_cons_of_mem line' member)) below.symm
    exact ⟨found', .outside (fun delimiter opens => closed delimiter (opens.of_trim_eq trimmed))
      reading', alike⟩
  | @literal number opening delimiter body closing rest found opens inside closes _ ih =>
    obtain ⟨opening', behind', rfl, openingTrimmed, behind⟩ := List.map_eq_cons_iff.mp same.symm
    rw [List.map_append, List.map_cons] at behind
    obtain ⟨body', after', rfl, bodyTrimmed, after⟩ := List.map_eq_append_iff.mp behind
    obtain ⟨closing', rest', rfl, closingTrimmed, below⟩ := List.map_eq_cons_iff.mp after
    have length : body.length = body'.length := by
      rw [← List.length_map Text.trim, ← bodyTrimmed, List.length_map]
    obtain ⟨found', reading', alike⟩ :=
      ih (fun line member => clean line (by simp [member]))
        (fun line member => clean' line (by simp [member])) below.symm
    refine ⟨found'.cons (.ofBody number delimiter body'), ?_, ?_, alike.unterminated⟩
    · refine .literal (opens.of_trim_eq openingTrimmed.symm)
        (forall_not_closesLine_of_trim_eq bodyTrimmed.symm inside)
        (closes.of_trim_eq closingTrimmed.symm) ?_
      rw [← length]
      exact reading'
    · refine .cons (Literal.resembles_ofBody number delimiter ?_ ?_ length) alike.literals
      · exact fun line member => clean line (by simp [member])
      · exact fun line member => clean' line (by simp [member])
  | @unterminated number opening delimiter body opens inside =>
    obtain ⟨opening', body', rfl, openingTrimmed, bodyTrimmed⟩ := List.map_eq_cons_iff.mp same.symm
    exact ⟨_, .unterminated (opens.of_trim_eq openingTrimmed.symm)
      (forall_not_closesLine_of_trim_eq bodyTrimmed.symm inside), .nil, rfl⟩

/-- What is found in a text does not depend on how it is laid out. Where the lines of another text
are trimmed to the same, the same literals are found but for what their lines hold. Carriage returns
put before line feeds change nothing at all, and neither does a line feed at the end.
-/
theorem scan_laidOut (m : Marker) (text : String)
    : (∀ other : String,
          (Text.lines text.toList).map Text.trim = (Text.lines other.toList).map Text.trim →
          (m.scan text).Resembles (m.scan other))
      ∧ (∀ chosen : Nat → Bool,
          m.scan (String.ofList (Text.withReturns chosen 0 none text.toList)) = m.scan text)
      ∧ m.scan (text ++ "\n") = m.scan text := by
  refine ⟨fun other same => ?_, fun chosen => ?_, m.scan_append_newline text⟩
  · obtain ⟨found, reading, alike⟩ :=
      (m.reads_scanLines 1 (Text.lines text.toList)).exists_resembles
        (fun _ => Text.not_mem_of_mem_lines) (fun _ => Text.not_mem_of_mem_lines) same
    rw [reading.eq_scanLines] at alike
    exact alike
  · rw [scan, String.toList_ofList, Text.lines_withReturns, scan]

/-- A text with blanks around its markers, whose last literal is left open. -/
def indented : String := "\tR\"a( \n  x\n\n\t)a\";\nR\"(\r\n"

/-- The same lines with other blanks around them, and no line feed at the end. -/
def outdented : String := "R\"a(\nx \n \n)a\";\n  R\"("

/-- Both texts have a literal of two lines, which differ, and leave the same one open. Carriage
returns may be put before all line feeds of the first but one.
-/
theorem scan_laidOut_indented
    : (Text.lines indented.toList).map Text.trim = (Text.lines outdented.toList).map Text.trim
      ∧ ({} : Marker).scan indented
        = { literals := [⟨"a", 1, "  x\n\n"⟩], unterminated := some ⟨5, ""⟩ }
      ∧ ({} : Marker).scan outdented
        = { literals := [⟨"a", 1, "x \n \n"⟩], unterminated := some ⟨5, ""⟩ }
      ∧ (({} : Marker).scan indented).Resembles (({} : Marker).scan outdented)
      ∧ String.ofList (Text.withReturns (· != 10) 0 none indented.toList)
        = "\tR\"a( \r\n  x\n\r\n\t)a\";\r\nR\"(\r\n"
      ∧ ({} : Marker).scan (String.ofList (Text.withReturns (· != 10) 0 none indented.toList))
        = ({} : Marker).scan indented := by
  have same
      : (Text.lines indented.toList).map Text.trim
        = (Text.lines outdented.toList).map Text.trim := by
    decide +kernel
  have laidOut := scan_laidOut {} indented
  exact ⟨same, by decide +kernel, by decide +kernel, laidOut.1 outdented same, by decide +kernel,
    laidOut.2.1 _⟩

end Marker

end Casebook
