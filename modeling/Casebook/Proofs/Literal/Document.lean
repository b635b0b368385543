import Casebook.Proofs.Literal.LineEnd
import Casebook.Proofs.Literal.Reading

/-! Documents, texts that are put together from lines outside of all literals and from literals
that are written with a marker. A scan gives back the literals that were written, whatever stands
around them in their lines.
-/

namespace Casebook

-----------------------------------------------------------------------------------------
-- Lines with a part that may stand anywhere in them
-----------------------------------------------------------------------------------------

/-- What stands in a line around a part of it: blanks and other text before, blanks behind. -/
structure Frame where
  indent : List Char := []
  before : List Char := []
  behind : List Char := []

namespace Frame

/-- The line with a part in its place. -/
def line (f : Frame) (part : List Char) : List Char :=
  f.indent ++ (f.before ++ (part ++ f.behind))

/-- The blanks are blanks, and all of it stands in one line. -/
structure Fits (f : Frame) : Prop where
  indent : Text.isAllBlank f.indent = true
  behind : Text.isAllBlank f.behind = true
  inLine : '\n' ∉ f.indent ++ (f.before ++ f.behind)

theorem Fits.not_mem_line {f : Frame} (fits : f.Fits) {part : List Char} (clean : '\n' ∉ part)
    : '\n' ∉ f.line part := by
  have around := fits.inLine
  simp only [List.mem_append, not_or] at around
  simp only [line, List.mem_append, not_or]
  exact ⟨around.1, around.2.1, clean, around.2.2⟩

/-- Trimming leaves a part that begins and ends with no blank whole, and at the end. -/
theorem Fits.trim_line {f : Frame} (fits : f.Fits) {part : List Char} {first last : Char}
    (starts : part.head? = some first) (firstSeen : Text.isBlank first = false)
    (ends : part.getLast? = some last) (lastSeen : Text.isBlank last = false)
    : Text.trim (f.line part) = Text.trimStart f.before ++ part := by
  have whole : f.line part = (f.indent ++ f.before) ++ part ++ f.behind := by
    simp only [line, List.append_assoc]
  rw [whole, Text.trim_append_of_blank _ fits.behind,
    Text.trim_append_core _ starts firstSeen ends lastSeen,
    Text.trimStart_append_of_blank fits.indent]

end Frame

-----------------------------------------------------------------------------------------
-- Literals as they are written
-----------------------------------------------------------------------------------------

/-- The text that opens a literal with `delimiter`. -/
def Marker.openingText (m : Marker) (delimiter : List Char) : List Char :=
  m.lead.toList ++ (delimiter ++ [m.openBracket])

/-- Trimming takes nothing off the pieces of the marker, and none of them goes over a line's end.
-/
structure Marker.IsFirm (m : Marker) : Prop where
  lead : ∃ c, m.lead.toList.head? = some c ∧ Text.isBlank c = false
  openBracket : Text.isBlank m.openBracket = false
  closeBracket : Text.isBlank m.closeBracket = false
  tail : ∃ c, m.tail.toList.getLast? = some c ∧ Text.isBlank c = false
  inLine : '\n' ∉ m.lead.toList ++ m.tail.toList

/-- A literal as it is written: its delimiter, its lines, and what stands around the markers in
its first and its last line.
-/
structure WrittenLiteral where
  delimiter : List Char
  opening : Frame := {}
  body : List (List Char)
  closing : Frame := {}

namespace WrittenLiteral

/-- The lines of the literal, those of its markers among them. -/
def lines (w : WrittenLiteral) (m : Marker) : List (List Char) :=
  w.opening.line (m.openingText w.delimiter)
    :: (w.body ++ [w.closing.line (m.closing w.delimiter)])

/-- The literal can be read back: the lead starts nowhere in the text before it, the delimiter
ends at the open bracket, and no line of the body closes the literal or loses a carriage return.
-/
structure IsClear (w : WrittenLiteral) (m : Marker) : Prop where
  opening : w.opening.Fits
  closing : w.closing.Fits
  leadFirst
    : ∀ i < w.opening.before.length,
        ¬ m.lead.toList <+: (w.opening.before ++ m.openingText w.delimiter).drop i
  delimiter : m.openBracket ∉ w.delimiter ∧ '\n' ∉ w.delimiter
  body
    : ∀ line ∈ w.body,
        '\n' ∉ line ∧ line.getLast? ≠ some '\r' ∧ ¬ m.ClosesLine w.delimiter line

variable {m : Marker} {w : WrittenLiteral}

theorem ne_feed {c : Char} (seen : Text.isBlank c = false)
    : '\n' ≠ c := by
  rintro rfl
  cases seen

theorem IsClear.not_mem_of_mem_lines (clear : w.IsClear m) (firm : m.IsFirm) {line : List Char}
    (member : line ∈ w.lines m)
    : '\n' ∉ line := by
  have pieces := firm.inLine
  have inDelimiter := clear.delimiter.2
  rw [List.mem_append, not_or] at pieces
  rw [lines, List.mem_cons, List.mem_append, List.mem_singleton] at member
  rcases member with rfl | inBody | rfl
  · apply clear.opening.not_mem_line
    simp [Marker.openingText, pieces.1, inDelimiter, ne_feed firm.openBracket]
  · exact (clear.body line inBody).1
  · apply clear.closing.not_mem_line
    simp [Marker.closing, pieces.2, inDelimiter, ne_feed firm.closeBracket]

/-- The first line opens the literal with its delimiter. An opening further to the left would
begin with a lead in the text before.
-/
theorem IsClear.opensLine (clear : w.IsClear m) (firm : m.IsFirm)
    : m.OpensLine w.delimiter (w.opening.line (m.openingText w.delimiter)) := by
  obtain ⟨first, starts, seen⟩ := firm.lead
  have startsPart : (m.openingText w.delimiter).head? = some first := by
    rw [Marker.openingText, List.head?_append, starts, Option.some_or]
  have endsPart : (m.openingText w.delimiter).getLast? = some m.openBracket := by
    rw [Marker.openingText, ← List.append_assoc, List.getLast?_concat]
  have trimmed := clear.opening.trim_line startsPart seen endsPart firm.openBracket
  obtain ⟨blanks, parts⟩ : Text.trimStart w.opening.before <:+ w.opening.before :=
    List.dropWhile_suffix _
  rw [Marker.OpensLine, trimmed]
  refine ⟨Text.trimStart w.opening.before, ⟨rfl, clear.delimiter.1⟩, ?_⟩
  intro earlier other opens
  refine Nat.le_of_not_lt fun further => ?_
  have starts : earlier.length < (Text.trimStart w.opening.before).length := further
  -- The same lead in the text as it was written, behind the blanks that were trimmed away.
  have place : blanks.length + earlier.length < w.opening.before.length := by
    rw [← parts, List.length_append]
    omega
  apply clear.leadFirst _ place
  rw [← parts, List.append_assoc, ← List.drop_drop, List.drop_left, opens.1, List.drop_left]
  exact List.prefix_append _ _

/-- The last line closes the literal, whatever stands before the marker. -/
theorem IsClear.closesLine (clear : w.IsClear m) (firm : m.IsFirm)
    : m.ClosesLine w.delimiter (w.closing.line (m.closing w.delimiter)) := by
  obtain ⟨last, ends, seen⟩ := firm.tail
  have startsPart : (m.closing w.delimiter).head? = some m.closeBracket := rfl
  have endsPart : (m.closing w.delimiter).getLast? = some last := by
    rw [Marker.closing, List.getLast?_append, ends, Option.some_or]
  rw [Marker.ClosesLine, clear.closing.trim_line startsPart firm.closeBracket endsPart seen]
  exact List.suffix_append _ _

end WrittenLiteral

/-- Every body can be written, with a delimiter that is longer than each of its lines. -/
theorem Marker.exists_delimiter (m : Marker) (body : List (List Char))
    : ∃ delimiter,
        (m.openBracket ∉ delimiter ∧ '\n' ∉ delimiter)
        ∧ ∀ line ∈ body, ¬ m.ClosesLine delimiter line := by
  obtain ⟨c, notBracket, notFeed⟩ : ∃ c, m.openBracket ≠ c ∧ '\n' ≠ c := by
    by_cases same : m.openBracket = 'x'
    · exact ⟨'y', by rw [same]; decide, by decide⟩
    · exact ⟨'x', same, by decide⟩
  let trimmed := body.map Text.trim
  refine ⟨List.replicate trimmed.flatten.length c, ⟨?_, ?_⟩, ?_⟩
  · exact fun member => notBracket (List.eq_of_mem_replicate member)
  · exact fun member => notFeed (List.eq_of_mem_replicate member)
  · intro line member closes
    have longer : (Text.trim line).length ≤ trimmed.flatten.length :=
      (List.sublist_flatten_of_mem (List.mem_map.mpr ⟨line, member, rfl⟩)).length_le
    have shorter := closes.length_le
    rw [List.length_cons, List.length_append, List.length_replicate] at shorter
    omega

-----------------------------------------------------------------------------------------
-- Documents
-----------------------------------------------------------------------------------------

/-- A part of a document: a line outside of all literals, or a literal. -/
inductive Item where
  | outside (line : List Char)
  | literal (written : WrittenLiteral)

namespace Item

def lines (m : Marker) : Item → List (List Char)
  | outside line => [line]
  | literal w => w.lines m

/-- The part can be read back: a line outside opens no literal, and a literal is clear. -/
def IsClear (m : Marker) : Item → Prop
  | outside line => '\n' ∉ line ∧ ∀ delimiter, ¬ m.OpensLine delimiter line
  | literal w => w.IsClear m

end Item

/-- The parts of a text, in order. -/
abbrev Document := List Item

namespace Document

def lines (m : Marker) (document : Document) : List (List Char) :=
  document.flatMap (Item.lines m)

/-- The literals that were written into a document whose lines are numbered from a number on. -/
def literals : Nat → Document → List Literal
  | _, [] => []
  | number, .outside _ :: rest => literals (number + 1) rest
  | number, .literal w :: rest =>
    .ofBody number w.delimiter w.body :: literals (number + w.body.length + 2) rest

end Document

namespace Marker

variable {m : Marker} {document : Document}

theorem not_mem_of_mem_lines (firm : m.IsFirm) (clear : ∀ item ∈ document, item.IsClear m)
    {line : List Char} (member : line ∈ document.lines m)
    : '\n' ∉ line := by
  obtain ⟨item, inDocument, inItem⟩ := List.mem_flatMap.mp member
  have clearItem := clear item inDocument
  cases item with
  | outside =>
    rw [List.mem_singleton.mp inItem]
    exact clearItem.1
  | literal w => exact clearItem.not_mem_of_mem_lines firm inItem

/-- The lines of a document, as they are read back from its text, have the reading of its parts.
By induction on the parts: each is one block.
-/
theorem reads_document (firm : m.IsFirm) (clear : ∀ item ∈ document, item.IsClear m)
    (number : Nat)
    : m.Reads number
        ((document.lines m).map fun line => Text.lineOfPiece (line ++ ['\n']))
        { literals := document.literals number } := by
  induction document generalizing number with
  | nil => exact .done
  | cons item rest ih =>
    have clearItem := clear item List.mem_cons_self
    have below := ih fun other member => clear other (List.mem_cons_of_mem item member)
    rw [Document.lines, List.flatMap_cons, ← Document.lines, List.map_append]
    cases item with
    | outside line =>
      refine .outside (fun delimiter opens => ?_) (below (number + 1))
      rw [OpensLine, Text.trim_lineOfPiece] at opens
      exact clearItem.2 delimiter opens
    | literal w =>
      -- The lines of the body are read back as they are.
      have sameBody : (w.body.map fun line => Text.lineOfPiece (line ++ ['\n'])) = w.body := by
        refine (List.map_congr_left fun line member => ?_).trans (List.map_id _)
        rw [Text.lineOfPiece_append_feed, if_neg (clearItem.body line member).2.1]
        rfl
      have opens := clearItem.opensLine firm
      have closes := clearItem.closesLine firm
      rw [OpensLine, ← Text.trim_lineOfPiece] at opens
      rw [ClosesLine, ← Text.trim_lineOfPiece] at closes
      rw [Item.lines, WrittenLiteral.lines, List.map_cons, List.map_append, List.map_singleton,
        sameBody, List.cons_append, List.append_assoc, List.singleton_append]
      exact .literal opens (fun line member => (clearItem.body line member).2.2) closes (below _)

/-- The text of a document has the literals that were written into it and none left open. -/
theorem scan_unlines (firm : m.IsFirm) (clear : ∀ item ∈ document, item.IsClear m)
    : m.scan (String.ofList (Text.unlines (document.lines m)))
      = { literals := document.literals 1 } := by
  rw [scan, String.toList_ofList, Text.lines_unlines fun _ => not_mem_of_mem_lines firm clear]
  exact (reads_document firm clear 1).eq_scanLines.symm

/-- What was written is read back. The text of a document, with or without its last line feed, has
the literals that were written into it, in order and with the numbers of their lines, and none
left open. Every body can be written in this way: some delimiter keeps it clear, and its lines are
those of the content that is read.
-/
theorem scan_document (firm : m.IsFirm) (clear : ∀ item ∈ document, item.IsClear m)
    : m.scan (String.ofList (Text.unlines (document.lines m)))
        = { literals := document.literals 1 }
      ∧ m.scan (String.ofList (Text.join '\n' (document.lines m)))
        = { literals := document.literals 1 }
      ∧ ∀ body : List (List Char),
          (∀ line ∈ body, '\n' ∉ line ∧ line.getLast? ≠ some '\r') →
          ∃ delimiter,
            WrittenLiteral.IsClear { delimiter := delimiter, body := body } m
            ∧ m.scan
                (String.ofList
                  (Text.unlines
                    (WrittenLiteral.lines { delimiter := delimiter, body := body } m)))
              = { literals := [.ofBody 1 delimiter body] }
            ∧ Text.lines (Text.unlines body) = body := by
  have whole := scan_unlines firm clear
  refine ⟨whole, ?_, ?_⟩
  · rcases List.eq_nil_or_concat (document.lines m) with none | ⟨front, last, some_⟩
    · rw [none] at whole ⊢
      exact whole
    · have nonempty : document.lines m ≠ [] := by
        rw [some_]
        simp
      rw [← scan_append_feed, Text.join_append_feed nonempty]
      exact whole
  · intro body kept
    obtain ⟨delimiter, clean, inside⟩ := m.exists_delimiter body
    have plain : Frame.Fits {} := ⟨rfl, rfl, by simp⟩
    have clear : WrittenLiteral.IsClear { delimiter := delimiter, body := body } m := by
      refine ⟨plain, plain, ?_, clean, ?_⟩
      · exact fun i impossible => absurd impossible (Nat.not_lt_zero i)
      · exact fun line member => ⟨(kept line member).1, (kept line member).2, inside line member⟩
    refine ⟨delimiter, clear, ?_, ?_⟩
    · have alone
          : ∀ item ∈ ([.literal { delimiter := delimiter, body := body }] : Document),
              item.IsClear m :=
        List.forall_mem_singleton.mpr clear
      have single := scan_unlines firm alone
      rw [Document.lines, List.flatMap_singleton] at single
      exact single
    · rw [Text.lines_unlines fun line member => (kept line member).1]
      refine (List.map_congr_left fun line member => ?_).trans (List.map_id _)
      rw [Text.lineOfPiece_append_feed, if_neg (kept line member).2]
      rfl

/-- A literal whose delimiter holds a lead, with text around its markers and a line in its body
that would close another literal.
-/
def writtenInCall : WrittenLiteral where
  delimiter := "a R\"b".toList
  opening := { indent := ['\t'], before := "call(x, ".toList, behind := [' '] }
  body := [")b\";".toList, []]
  closing := { indent := [' ', ' '], before := "end".toList, behind := ['\t'] }

/-- Two literals, one of them empty, each behind a line outside of all literals. -/
def twoWritten : Document :=
  [
    .outside "int main() \x7b".toList,
    .literal writtenInCall,
    .outside [],
    .literal { delimiter := [], body := [] }
  ]

/-- Both literals are read back from the text that they were written into. -/
theorem scan_document_two_written
    : ({} : Marker).IsFirm
      ∧ (∀ item ∈ twoWritten, item.IsClear {})
      ∧ String.ofList (Text.unlines (twoWritten.lines {}))
        = "int main() \x7b\n\tcall(x, R\"a R\"b( \n)b\";\n\n  end)a R\"b\";\t\n\nR\"(\n)\";\n"
      ∧ ({} : Marker).scan (String.ofList (Text.unlines (twoWritten.lines {})))
        = { literals := [⟨"a R\"b", 2, ")b\";\n\n"⟩, ⟨"", 7, ""⟩] } := by
  have firm : ({} : Marker).IsFirm := by
    refine ⟨⟨'R', ?_, ?_⟩, ?_, ?_, ⟨';', ?_, ?_⟩, ?_⟩ <;> decide +kernel
  have stays {delimiter line : List Char}
      (open_ : ¬ ({} : Marker).closes delimiter (Text.trim line) = true)
      : ¬ ({} : Marker).ClosesLine delimiter line :=
    mt closes_eq_true_iff.mpr open_
  have firstClear : writtenInCall.IsClear {} := by
    refine ⟨⟨?_, ?_, ?_⟩, ⟨?_, ?_, ?_⟩, ?_, ?_, ?_⟩
    case refine_9 =>
      simp only [writtenInCall, List.forall_mem_cons]
      refine ⟨⟨?_, ?_, stays ?_⟩, ⟨?_, ?_, stays ?_⟩, nofun⟩ <;> decide +kernel
    all_goals decide +kernel
  have secondClear : WrittenLiteral.IsClear { delimiter := [], body := [] } {} := by
    refine ⟨⟨?_, ?_, ?_⟩, ⟨?_, ?_, ?_⟩, ?_, ?_, nofun⟩ <;> decide +kernel
  have clear : ∀ item ∈ twoWritten, item.IsClear {} := by
    simp only [twoWritten, List.forall_mem_cons]
    refine ⟨⟨?_, ?_⟩, firstClear, ⟨?_, ?_⟩, secondClear, nofun⟩
    · decide +kernel
    · exact opening?_eq_none_iff.mp (by decide +kernel)
    · decide +kernel
    · exact opening?_eq_none_iff.mp (by decide +kernel)
  exact ⟨firm, clear, by decide +kernel, (scan_document firm clear).1⟩

end Marker

end Casebook
