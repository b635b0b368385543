import Casebook.Proofs.Literal.Alone
import Casebook.Proofs.Literal.Concatenation

/-! Literals that are left open, and closed in the end. The number and the delimiter of such a
literal tell all of what a scan has thrown away: with its closing text in one more line, the literal
is found behind all others, with the lines behind its number for its content.
-/

namespace Casebook

/-- The text with a line feed at its end. -/
def Text.ended (text : String) : String :=
  if text.toList.getLast? = some '\n' then text else text ++ "\n"

theorem Text.getLast?_ended (text : String)
    : (ended text).toList.getLast? = some '\n' := by
  unfold ended
  split
  next already => exact already
  next =>
    rw [String.toList_append]
    exact List.getLast?_concat

namespace Marker

variable {m : Marker} {text : String} {u : OpenLiteral}

theorem scan_ended (m : Marker) (text : String)
    : m.scan (Text.ended text) = m.scan text := by
  unfold Text.ended
  split
  next => rfl
  next => exact m.scan_append_newline text

/-- The closing text is a line that closes the literal, unless it ends with a blank. -/
theorem closesLine_closing (noFault : m.fault? = none)
    (tailEnds : ∃ c, m.tail.toList.getLast? = some c ∧ Text.isBlank c = false)
    (delimiter : List Char)
    : m.ClosesLine delimiter (m.closing delimiter) := by
  obtain ⟨last, ends, lastSeen⟩ := tailEnds
  obtain ⟨-, -, closeSeen⟩ := seen_of_noFault noFault
  have starts : (m.closing delimiter).head? = some m.closeBracket := rfl
  have endsClosing : (m.closing delimiter).getLast? = some last := by
    rw [closing, List.getLast?_append, ends, Option.some_or]
  rw [ClosesLine, Text.trim_eq_self starts closeSeen endsClosing lastSeen]
  exact List.suffix_refl _

/-- A line behind all others that closes the literal left open makes it the last one found, with the
lines behind its opening. By induction on the reading: blocks in front of the literal stay.
-/
theorem Reads.closed {number : Nat} {ls : List (List Char)} {found : Scan} {closing : List Char}
    (reading : m.Reads number ls found) (left : found.unterminated = some u)
    (closes : m.ClosesLine u.delimiter.toList closing)
    : ∃ before opening after,
        ls = before ++ opening :: after
        ∧ u.line = number + before.length
        ∧ m.OpensLine u.delimiter.toList opening
        ∧ m.Reads number (ls ++ [closing])
            { literals := found.literals ++ [.ofBody u.line u.delimiter.toList after] } := by
  induction reading with
  | done => cases left
  | @outside number line rest found closed _ ih =>
    obtain ⟨before, opening, after, rfl, place, opensLeft, reading⟩ := ih left
    refine ⟨line :: before, opening, after, rfl, ?_, opensLeft, .outside closed reading⟩
    rw [place, List.length_cons]
    omega
  | @literal number first delimiter body last rest found opens inside closesFirst _ ih =>
    obtain ⟨before, opening, after, rfl, place, opensLeft, reading⟩ := ih left
    refine ⟨first :: (body ++ last :: before), opening, after, by simp, ?_, opensLeft, ?_⟩
    · rw [place, List.length_cons, List.length_append, List.length_cons]
      omega
    · rw [List.cons_append, List.append_assoc, List.cons_append]
      exact .literal opens inside closesFirst reading
  | @unterminated number opening delimiter body opens inside =>
    cases left
    rw [String.toList_ofList] at closes ⊢
    exact ⟨[], opening, body, rfl, rfl, opens, .literal opens inside closes .done⟩

/-- What is not in a line is not in the delimiter that it opens a literal with. -/
theorem OpensLine.not_mem_delimiter {c : Char} {line delimiter : List Char}
    (opens : m.OpensLine delimiter line) (clean : c ∉ line)
    : c ∉ delimiter := by
  obtain ⟨before, ⟨made, -⟩, -⟩ := opens
  refine fun member => clean ((Text.trim_sublist line).subset ?_)
  rw [made]
  simp [member]

/-- One more line behind a text closes the literal that is left open exactly if it ends with the
closing text for the delimiter. An empty line is none that could.
-/
theorem isClean_scan_append_iff (left : (m.scan text).unterminated = some u) {line : List Char}
    (clean : '\n' ∉ line)
    : (m.scan (Text.ended text ++ String.ofList line)).isClean = true
      ↔ m.ClosesLine u.delimiter.toList line := by
  rw [← scan_ended, scan, unterminated_scanLines] at left
  obtain ⟨o, isOpen, rfl⟩ := Option.map_eq_some_iff.mp left
  have delimiter : o.abandon.delimiter.toList = o.delimiter := String.toList_ofList
  rw [scan, String.toList_append, String.toList_ofList,
    Text.lines_append (.inr (Text.getLast?_ended text)), scanLines_append, isOpen, delimiter,
    Scan.isClean, Scan.thenFinds, ← closes_eq_true_iff]
  dsimp only
  cases line with
  | nil =>
    have noLine : Text.lines [] = [] := rfl
    have trimmed : Text.trim [] = [] := rfl
    rw [noLine, trimmed]
    simp [scanLines, closes, closing]
  | cons c rest =>
    rw [Text.lines_of_not_mem clean (List.cons_ne_nil c rest), scanLines]
    split
    next closes => simp [closes, Scan.cons, scanLines]
    next stays => simp [stays, scanLines]

/-- A literal that a text leaves open can be closed. With its closing text in one more line behind
the text, the same literals are found and one more, and none is left open. The last one stands where
the record says, and its content is all lines of the text from there on.
-/
theorem scan_repaired (noFault : m.fault? = none)
    (tailEnds : ∃ c, m.tail.toList.getLast? = some c ∧ Text.isBlank c = false)
    (tailInLine : '\n' ∉ m.tail.toList) (left : (m.scan text).unterminated = some u)
    : ∀ ending ∈ ["", "\n"],
        m.scan (Text.ended text ++ String.ofList (m.closing u.delimiter.toList) ++ ending)
        = {
            literals :=
              (m.scan text).literals
              ++ [
                  {
                    delimiter := u.delimiter
                    line := u.line
                    content :=
                      String.ofList
                        (Text.unlines ((Text.lines (Text.ended text).toList).drop u.line))
                  }
                ]
          } := by
  have sameFound := m.scan_ended text
  rw [← sameFound] at left ⊢
  have closes := closesLine_closing noFault tailEnds u.delimiter.toList
  obtain ⟨before, opening, after, made, place, opens, reading⟩ :=
    (m.reads_scanLines 1 (Text.lines (Text.ended text).toList)).closed left closes
  -- The closing text is one line, so it comes behind the lines of the text as they are.
  have clean : '\n' ∉ m.closing u.delimiter.toList := by
    have inOpening : opening ∈ Text.lines (Text.ended text).toList := by simp [made]
    obtain ⟨-, -, closeSeen⟩ := seen_of_noFault noFault
    have delimiterClean := opens.not_mem_delimiter (Text.not_mem_of_mem_lines inOpening)
    simp [closing, tailInLine, delimiterClean, WrittenLiteral.ne_feed closeSeen]
  have lines
      : Text.lines (Text.ended text ++ String.ofList (m.closing u.delimiter.toList)).toList
        = Text.lines (Text.ended text).toList ++ [m.closing u.delimiter.toList] := by
    rw [String.toList_append, String.toList_ofList,
      Text.lines_append (.inr (Text.getLast?_ended text)),
      Text.lines_of_not_mem clean (List.cons_ne_nil _ _)]
  have behind : (Text.lines (Text.ended text).toList).drop u.line = after := by
    rw [made, place, Nat.add_comm, ← List.drop_drop, List.drop_left, List.drop_one, List.tail_cons]
  have closed
      : m.scan (Text.ended text ++ String.ofList (m.closing u.delimiter.toList))
        = {
            literals :=
              (m.scan (Text.ended text)).literals
              ++ [.ofBody u.line u.delimiter.toList after]
          } := by
    rw [scan, lines]
    exact reading.eq_scanLines.symm
  rw [Literal.ofBody, String.ofList_toList, ← behind] at closed
  intro ending member
  rw [List.mem_cons, List.mem_singleton] at member
  rcases member with rfl | rfl
  · rw [String.append_empty]
    exact closed
  · rw [scan_append_newline]
    exact closed

/-- A text that leaves a literal open behind a closed one, and ends with a carriage return. -/
def brokenOff : String := "r#\"a[\n]b\"#;\n]a\"#;\nx = r#\"b [\n  y\n]b\"#;\r"

/-- The literal that is left open is closed, whatever stands in its last line. -/
theorem scan_repaired_broken_off
    : hashed.fault? = none
      ∧ (∃ c, hashed.tail.toList.getLast? = some c ∧ Text.isBlank c = false)
      ∧ '\n' ∉ hashed.tail.toList
      ∧ (hashed.scan brokenOff).unterminated = some ⟨4, "b "⟩
      ∧ hashed.scan (brokenOff ++ "\n]b \"#;")
        = { literals := [⟨"a", 1, "]b\"#;\n"⟩, ⟨"b ", 4, "  y\n]b\"#;\n"⟩] } := by
  have noFault : hashed.fault? = none := by decide +kernel
  have tailEnds : ∃ c, hashed.tail.toList.getLast? = some c ∧ Text.isBlank c = false :=
    ⟨';', by decide +kernel, by decide⟩
  have inLine : '\n' ∉ hashed.tail.toList := by decide +kernel
  have left : (hashed.scan brokenOff).unterminated = some ⟨4, "b "⟩ := by decide +kernel
  have repaired := scan_repaired noFault tailEnds inLine left "" List.mem_cons_self
  have text
      : Text.ended brokenOff ++ String.ofList (hashed.closing "b ".toList) ++ ""
        = brokenOff ++ "\n]b \"#;" := by
    decide +kernel
  rw [text] at repaired
  exact ⟨noFault, tailEnds, inLine, left, repaired.trans (by decide +kernel)⟩

end Marker

end Casebook
