import Casebook.Proofs.Config.Check
import Casebook.Proofs.Evaluation
import Casebook.Proofs.Literal.Document
import Casebook.Proofs.Literal.Layout

/-! Literals that are written with nothing around their markers. Such a literal is read back where
its markers come whole through the cut into lines and through trimming, and nowhere else. Markers
that do not are not all refused.
-/

namespace Casebook

namespace Text

theorem trim_sublist (text : List Char)
    : (trim text).Sublist text := by
  have ends : (trim text).Sublist (trimStart text) := by
    have reversed := (List.dropWhile_suffix isBlank (l := (trimStart text).reverse)).sublist.reverse
    rwa [List.reverse_reverse] at reversed
  exact ends.trans (List.dropWhile_suffix isBlank).sublist

/-- A text that begins and ends with characters that are not blank is not trimmed. -/
theorem trim_eq_self {text : List Char} {first last : Char} (starts : text.head? = some first)
    (firstSeen : isBlank first = false) (ends : text.getLast? = some last)
    (lastSeen : isBlank last = false)
    : trim text = text :=
  trim_append_core [] starts firstSeen ends lastSeen

/-- A text that trimming makes no shorter neither begins nor ends with a blank. -/
theorem seen_of_length_le_trim {text : List Char} (whole : text.length ≤ (trim text).length)
    : (∀ c, text.head? = some c → isBlank c = false)
      ∧ ∀ c, text.getLast? = some c → isBlank c = false := by
  have same : trim text = text := (trim_sublist text).eq_of_length_le whole
  have start : trimStart text = text := by
    refine (List.dropWhile_suffix isBlank).eq_of_length_le (le_trans whole ?_)
    rw [trim, trimEnd, List.length_reverse]
    exact (List.dropWhile_suffix isBlank).length_le.trans_eq List.length_reverse
  have ended : text.reverse.dropWhile isBlank = text.reverse := by
    rw [trim, start] at same
    rw [← List.reverse_inj, List.reverse_reverse]
    exact same
  constructor
  · intro c first
    obtain ⟨rest, rfl⟩ := List.head?_eq_some_iff.mp first
    exact Bool.eq_false_iff.mpr (List.dropWhile_eq_self_iff.mp start (Nat.zero_lt_succ _))
  · intro c last
    obtain ⟨front, rfl⟩ := List.getLast?_eq_some_iff.mp last
    rw [List.reverse_append, List.reverse_singleton, List.singleton_append] at ended
    exact Bool.eq_false_iff.mpr (List.dropWhile_eq_self_iff.mp ended (Nat.zero_lt_succ _))

end Text

namespace Marker

/-- The lines of a literal with nothing around its markers. -/
def loneLines (m : Marker) (delimiter : List Char) (body : List (List Char))
    : List (List Char) :=
  m.openingText delimiter :: (body ++ [m.closing delimiter])

/-- The markers of a literal with a delimiter come whole through the cut into lines and through
trimming: no line feed is in them, no blank begins the first and none ends the last.
-/
structure KeepsWhole (m : Marker) (delimiter : List Char) : Prop where
  inLine : '\n' ∉ m.lead.toList ++ m.tail.toList
  lead : ∀ c, m.lead.toList.head? = some c → Text.isBlank c = false
  tail : ∀ c, (delimiter ++ m.tail.toList).getLast? = some c → Text.isBlank c = false

variable {m : Marker} {delimiter : List Char} {body : List (List Char)}

/-- A marker without a fault has a lead, and its brackets are no blanks. -/
theorem seen_of_noFault (noFault : m.fault? = none)
    : m.lead.toList ≠ []
      ∧ Text.isBlank m.openBracket = false
      ∧ Text.isBlank m.closeBracket = false := by
  unfold fault? at noFault
  split at noFault
  next => cases noFault
  next nonempty =>
  split at noFault
  next => cases noFault
  next seen =>
    rw [Bool.or_eq_true, not_or, Bool.not_eq_true, Bool.not_eq_true] at seen
    rw [String.isEmpty_iff, ← String.toList_eq_nil_iff] at nonempty
    exact ⟨nonempty, seen⟩

/-- A marker that can be used has no fault. -/
theorem seen_of_checkSearch (usable : m.checkSearch = .ok ())
    : m.lead.toList ≠ []
      ∧ Text.isBlank m.openBracket = false
      ∧ Text.isBlank m.closeBracket = false := by
  refine seen_of_noFault ?_
  unfold checkSearch check at usable
  cases fault : m.fault? with
  | none => rfl
  | some found =>
    rw [fault] at usable
    cases usable

/-- The first marker opens the literal, as no lead can come before its own. -/
theorem KeepsWhole.opensLine (whole : m.KeepsWhole delimiter) (usable : m.checkSearch = .ok ())
    (free : m.openBracket ∉ delimiter)
    : m.OpensLine delimiter (m.openingText delimiter) := by
  obtain ⟨nonempty, openSeen, -⟩ := seen_of_checkSearch usable
  obtain ⟨first, rest, lead⟩ := List.exists_cons_of_ne_nil nonempty
  have starts : (m.openingText delimiter).head? = some first := by
    rw [openingText, lead]
    rfl
  have ends : (m.openingText delimiter).getLast? = some m.openBracket := by
    rw [openingText, ← List.append_assoc, List.getLast?_concat]
  have firstSeen := whole.lead first (by rw [lead]; rfl)
  rw [OpensLine, Text.trim_eq_self starts firstSeen ends openSeen]
  exact ⟨[], ⟨rfl, free⟩, fun _ _ _ => Nat.zero_le _⟩

/-- The last marker closes the literal. Where nothing follows the close bracket, the line ends with
that.
-/
theorem KeepsWhole.closesLine (whole : m.KeepsWhole delimiter) (usable : m.checkSearch = .ok ())
    : m.ClosesLine delimiter (m.closing delimiter) := by
  obtain ⟨-, -, closeSeen⟩ := seen_of_checkSearch usable
  have starts : (m.closing delimiter).head? = some m.closeBracket := rfl
  obtain ⟨last, ends, lastSeen⟩
      : ∃ last, (m.closing delimiter).getLast? = some last ∧ Text.isBlank last = false := by
    cases behind : (delimiter ++ m.tail.toList).getLast? with
    | none =>
      refine ⟨m.closeBracket, ?_, closeSeen⟩
      rw [closing, List.cons_append, List.getLast?_eq_none_iff.mp behind]
      rfl
    | some last =>
      refine ⟨last, ?_, whole.tail last behind⟩
      rw [closing, List.cons_append, List.getLast?_cons, behind]
      rfl
  rw [ClosesLine, Text.trim_eq_self starts closeSeen ends lastSeen]
  exact List.suffix_refl _

/-- The lines of the literal are cut apart where they were put together. -/
theorem not_mem_of_mem_loneLines (inLine : '\n' ∉ m.lead.toList ++ m.tail.toList)
    (usable : m.checkSearch = .ok ()) (clean : '\n' ∉ delimiter)
    (kept : ∀ line ∈ body, '\n' ∉ line) {line : List Char}
    (member : line ∈ m.loneLines delimiter body)
    : '\n' ∉ line := by
  obtain ⟨-, openSeen, closeSeen⟩ := seen_of_checkSearch usable
  rw [List.mem_append, not_or] at inLine
  rw [loneLines, List.mem_cons, List.mem_append, List.mem_singleton] at member
  rcases member with rfl | inBody | rfl
  · simp [openingText, inLine.1, clean, WrittenLiteral.ne_feed openSeen]
  · exact kept line inBody
  · simp [closing, inLine.2, clean, WrittenLiteral.ne_feed closeSeen]

/-- A literal with the delimiter and body that were written can only stand in all of the lines, so
its first and its last line are the markers as they were written, and trimming has left them whole.
-/
theorem keepsWhole_of_standsIn (usable : m.checkSearch = .ok ()) (clean : '\n' ∉ delimiter)
    (kept : ∀ line ∈ body, '\n' ∉ line) {l : Literal}
    (stands : l.StandsIn m 1 (Text.lines (Text.unlines (m.loneLines delimiter body))))
    (sameDelimiter : l.delimiter = String.ofList delimiter)
    (sameBody : l.content = String.ofList (Text.unlines body))
    : m.KeepsWhole delimiter := by
  obtain ⟨before, opening, inside, closing, after, made, -, count, opens, -, -, closes⟩ := stands
  rw [sameDelimiter, String.toList_ofList] at opens closes
  obtain ⟨lead, ⟨openingTrimmed, -⟩, -⟩ := opens
  -- Lines hold no line feed, and the two lines hold the lead and the tail.
  have inLine : '\n' ∉ m.lead.toList ++ m.tail.toList := by
    have cleanOf (line : List Char)
        (member : line ∈ before ++ opening :: (inside ++ closing :: after))
        : '\n' ∉ Text.trim line :=
      fun feed =>
        Text.not_mem_of_mem_lines (made ▸ member) ((Text.trim_sublist line).subset feed)
    have inOpening := cleanOf opening (by simp)
    have inClosing := cleanOf closing (by simp)
    rw [openingTrimmed] at inOpening
    rw [List.mem_append, not_or]
    constructor
    · exact fun feed => inOpening (by simp [feed])
    · exact fun feed => inClosing (closes.subset (by simp [feed]))
  rw [Text.lines_unlines fun _ => not_mem_of_mem_loneLines inLine usable clean kept] at made
  have lengths := congrArg List.length made
  have counted : l.lineCount = body.length := by
    rw [Literal.lineCount, sameBody, String.toList_ofList, Text.length_lines_unlines kept]
  simp only [loneLines, List.length_map, List.length_cons, List.length_append, List.length_nil]
    at lengths
  obtain rfl : before = [] := List.eq_nil_of_length_eq_zero (by omega)
  obtain rfl : after = [] := List.eq_nil_of_length_eq_zero (by omega)
  rw [loneLines, List.map_cons, List.map_append, List.map_singleton, List.nil_append] at made
  obtain ⟨first, rest⟩ := List.cons.inj made
  obtain ⟨-, last⟩ := List.append_inj' rest rfl
  rw [← first, Text.trim_lineOfPiece] at openingTrimmed
  rw [ClosesLine, ← List.singleton_inj.mp last, Text.trim_lineOfPiece] at closes
  have openingWhole : (m.openingText delimiter).length
      ≤ (Text.trim (m.openingText delimiter)).length := by
    rw [openingTrimmed, openingText]
    simp only [List.length_append]
    omega
  have seenFirst := (Text.seen_of_length_le_trim openingWhole).1
  have seenLast := (Text.seen_of_length_le_trim closes.length_le).2
  refine ⟨inLine, fun c starts => seenFirst c ?_, fun c ends => seenLast c ?_⟩
  · rw [openingText, List.head?_append, starts, Option.some_or]
  · rw [List.getLast?_cons, ends]
    rfl

/-- A literal that is written with nothing around its markers is all that is found in its text where
the markers come whole through it. Where they do not, nothing that is found has its delimiter and
its body. The marker only has to be usable, the delimiter to end at the open bracket, and the body
not to close the literal.
-/
theorem scan_loneLines (usable : m.checkSearch = .ok ())
    (clean : m.openBracket ∉ delimiter ∧ '\n' ∉ delimiter)
    (kept : ∀ line ∈ body, '\n' ∉ line ∧ '\r' ∉ line ∧ ¬ m.ClosesLine delimiter line)
    : (m.KeepsWhole delimiter →
          m.scan (String.ofList (Text.unlines (m.loneLines delimiter body)))
          = { literals := [.ofBody 1 delimiter body] })
      ∧ (¬ m.KeepsWhole delimiter →
          ∀ l ∈ (m.scan (String.ofList (Text.unlines (m.loneLines delimiter body)))).literals,
            ¬ (l.delimiter = String.ofList delimiter
              ∧ l.content = String.ofList (Text.unlines body))) := by
  have keptClean (line) (member : line ∈ body) : '\n' ∉ line := (kept line member).1
  constructor
  · intro whole
    have opens := whole.opensLine usable clean.1
    have closes := whole.closesLine usable
    rw [OpensLine, ← Text.trim_lineOfPiece] at opens
    rw [ClosesLine, ← Text.trim_lineOfPiece] at closes
    have sameBody : (body.map fun line => Text.lineOfPiece (line ++ ['\n'])) = body := by
      refine (List.map_congr_left fun line member => ?_).trans (List.map_id _)
      rw [Text.lineOfPiece_append_feed, if_neg]
      · rfl
      · exact fun last => (kept line member).2.1 (List.mem_of_getLast? last)
    have inside (line) (member : line ∈ body) : ¬ m.ClosesLine delimiter line :=
      (kept line member).2.2
    have reading : m.Reads 1 _ _ := .literal opens inside closes .done
    rw [scan, String.toList_ofList,
      Text.lines_unlines fun _ => not_mem_of_mem_loneLines whole.inLine usable clean.2 keptClean,
      loneLines, List.map_cons, List.map_append, List.map_singleton, sameBody]
    exact reading.eq_scanLines.symm
  · rintro notWhole l member ⟨sameDelimiter, sameBody⟩
    rw [scan, String.toList_ofList] at member
    have reading := m.reads_scanLines 1 (Text.lines (Text.unlines (m.loneLines delimiter body)))
    have stands := (reading.describes fun _ => Text.not_mem_of_mem_lines).literals l member
    exact notWhole (keepsWhole_of_standsIn usable clean.2 keptClean stands sameDelimiter sameBody)

/-- A marker with other pieces than the usual ones. -/
def hashed : Marker where
  lead := "r#\""
  openBracket := '['
  closeBracket := ']'
  tail := "\"#;"

/-- A literal of one line is read back from the text that it makes with this marker. -/
theorem scan_loneLines_hashed
    : hashed.checkSearch = .ok ()
      ∧ (hashed.openBracket ∉ "tag".toList ∧ '\n' ∉ "tag".toList)
      ∧ (∀ line ∈ ["body".toList],
          '\n' ∉ line ∧ '\r' ∉ line ∧ ¬ hashed.ClosesLine "tag".toList line)
      ∧ hashed.KeepsWhole "tag".toList
      ∧ String.ofList (Text.unlines (hashed.loneLines "tag".toList ["body".toList]))
        = "r#\"tag[\nbody\n]tag\"#;\n"
      ∧ hashed.scan
            (String.ofList (Text.unlines (hashed.loneLines "tag".toList ["body".toList])))
        = { literals := [⟨"tag", 1, "body\n"⟩] } := by
  have usable : hashed.checkSearch = .ok () := checkSearch_eq_ok (by decide +kernel) (by cbv)
  have clean : hashed.openBracket ∉ "tag".toList ∧ '\n' ∉ "tag".toList := by decide +kernel
  have stays : ¬ hashed.ClosesLine "tag".toList "body".toList :=
    mt closes_eq_true_iff.mpr (by decide +kernel)
  have kept
      : ∀ line ∈ ["body".toList],
          '\n' ∉ line ∧ '\r' ∉ line ∧ ¬ hashed.ClosesLine "tag".toList line :=
    List.forall_mem_singleton.mpr ⟨by decide +kernel, by decide +kernel, stays⟩
  have whole : hashed.KeepsWhole "tag".toList := by
    have lead : hashed.lead.toList.head? = some 'r' := by decide +kernel
    have tail : ("tag".toList ++ hashed.tail.toList).getLast? = some ';' := by decide +kernel
    refine ⟨by decide +kernel, fun c first => ?_, fun c last => ?_⟩
    · rw [← Option.some.inj (lead.symm.trans first)]
      decide
    · rw [← Option.some.inj (tail.symm.trans last)]
      decide
  exact ⟨usable, clean, kept, whole, by decide +kernel, (scan_loneLines usable clean kept).1 whole⟩

/-- Not every literal that is written with a marker that can be used is read back: a lead that
begins with a blank is never found, since lines are searched without the blanks they begin with.
-/
theorem not_every_lone_literal_read
    : ¬ ∀ (m : Marker) (delimiter : List Char) (body : List (List Char)),
        m.checkSearch = .ok ()
        → m.openBracket ∉ delimiter ∧ '\n' ∉ delimiter
        → (∀ line ∈ body, '\n' ∉ line ∧ '\r' ∉ line ∧ ¬ m.ClosesLine delimiter line)
        → m.scan (String.ofList (Text.unlines (m.loneLines delimiter body)))
          = { literals := [.ofBody 1 delimiter body] } := by
  intro every
  have usable : ({ lead := " R\"" } : Marker).checkSearch = .ok () :=
    checkSearch_eq_ok (by decide +kernel) (by cbv)
  have stays : ¬ ({ lead := " R\"" } : Marker).ClosesLine [] ['x'] :=
    mt closes_eq_true_iff.mpr (by decide +kernel)
  have read := every { lead := " R\"" } [] [['x']] usable (by decide)
    (List.forall_mem_singleton.mpr ⟨by decide, by decide, stays⟩)
  exact absurd read (by decide +kernel)

end Marker

end Casebook
