import Casebook.Proofs.Literal.Document

/-! Literals in a literal. The text that closes a literal closes none with another delimiter, so a
literal may have other literals whole in its lines, and they are found when its content is scanned.
-/

namespace Casebook

-----------------------------------------------------------------------------------------
-- Blocks of lines
-----------------------------------------------------------------------------------------

/-- A block of lines: one outside of all literals, or those of a literal from the line that opens it
to the line that closes it.
-/
inductive Block where
  | outside (line : List Char)
  | literal (delimiter opening : List Char) (body : List (List Char)) (closing : List Char)

namespace Block

def lines : Block → List (List Char)
  | outside line => [line]
  | literal _ opening body closing => opening :: (body ++ [closing])

/-- The lines do what the block says, and no other line of a literal closes it. -/
def IsRead (m : Marker) : Block → Prop
  | outside line => ∀ delimiter, ¬ m.OpensLine delimiter line
  | literal delimiter opening body closing =>
    m.OpensLine delimiter opening
    ∧ (∀ line ∈ body, ¬ m.ClosesLine delimiter line)
    ∧ m.ClosesLine delimiter closing

/-- The block may stand in a literal with the delimiter `outer`: a literal has another delimiter,
free of close brackets, and neither a line outside nor one of a body closes the outer literal.
-/
def FitsIn (m : Marker) (outer : List Char) : Block → Prop
  | outside line => ¬ m.ClosesLine outer line
  | literal delimiter _ body _ =>
    m.closeBracket ∉ delimiter
    ∧ delimiter ≠ outer
    ∧ ∀ line ∈ body, ¬ m.ClosesLine outer line

instance (m : Marker) : (b : Block) → Decidable (b.IsRead m)
  | outside line => inferInstanceAs (Decidable (∀ delimiter, ¬ m.OpensLine delimiter line))
  | literal delimiter opening body closing =>
    inferInstanceAs
      (Decidable
        (m.OpensLine delimiter opening
        ∧ (∀ line ∈ body, ¬ m.ClosesLine delimiter line)
        ∧ m.ClosesLine delimiter closing))

instance (m : Marker) (outer : List Char) : (b : Block) → Decidable (b.FitsIn m outer)
  | outside line => inferInstanceAs (Decidable (¬ m.ClosesLine outer line))
  | literal delimiter _ body _ =>
    inferInstanceAs
      (Decidable
        (m.closeBracket ∉ delimiter
        ∧ delimiter ≠ outer
        ∧ ∀ line ∈ body, ¬ m.ClosesLine outer line))

/-- The literals of blocks whose lines are numbered from a number on. -/
def literals : Nat → List Block → List Literal
  | _, [] => []
  | number, outside _ :: rest => literals (number + 1) rest
  | number, literal delimiter _ body _ :: rest =>
    .ofBody number delimiter body :: literals (number + body.length + 2) rest

/-- The lines of blocks one below the other. -/
def text (blocks : List Block) : String :=
  String.ofList (Text.unlines (blocks.flatMap lines))

/-- Lines of blocks are read as these blocks, by induction on them. -/
theorem reads_lines {m : Marker} {blocks : List Block} (read : ∀ b ∈ blocks, b.IsRead m)
    (number : Nat)
    : m.Reads number (blocks.flatMap lines) { literals := literals number blocks } := by
  induction blocks generalizing number with
  | nil => exact .done
  | cons b rest ih =>
    have below := ih fun other member => read other (List.mem_cons_of_mem b member)
    have first := read b List.mem_cons_self
    rw [List.flatMap_cons]
    cases b with
    | outside line => exact .outside first (below (number + 1))
    | literal delimiter opening body closing =>
      obtain ⟨opens, inside, closes⟩ := first
      rw [lines, List.cons_append, List.append_assoc, List.singleton_append]
      exact .literal opens inside closes (below _)

end Block

-----------------------------------------------------------------------------------------
-- Closing texts and their delimiters
-----------------------------------------------------------------------------------------

namespace Marker

variable {m : Marker} {delimiter other line : List Char}

/-- A closing text that ends another one is the same. Were it shorter, its bracket would stand in
the delimiter of the other.
-/
theorem eq_of_closing_suffix (free : m.closeBracket ∉ other)
    (ends : m.closing delimiter <:+ m.closing other)
    : delimiter = other := by
  obtain ⟨front, made⟩ := ends
  rw [closing, closing, ← List.append_assoc] at made
  have same : front ++ m.closeBracket :: delimiter = m.closeBracket :: other :=
    List.append_cancel_right made
  cases front with
  | nil => exact (List.cons.inj same).2
  | cons first front =>
    have inOther : front ++ m.closeBracket :: delimiter = other := (List.cons.inj same).2
    exact absurd (inOther ▸ List.mem_append_right front List.mem_cons_self) free

/-- A line closes literals with one delimiter only, among those free of close brackets. -/
theorem ClosesLine.unique (closes : m.ClosesLine delimiter line)
    (closesOther : m.ClosesLine other line) (free : m.closeBracket ∉ delimiter)
    (otherFree : m.closeBracket ∉ other)
    : delimiter = other := by
  rcases List.suffix_or_suffix_of_suffix closes closesOther with ends | ends
  · exact eq_of_closing_suffix otherFree ends
  · exact (eq_of_closing_suffix free ends).symm

/-- A line that opens a literal ends with the open bracket, and closes none if the tail ends with
another character.
-/
theorem OpensLine.not_closesLine {last : Char} (opens : m.OpensLine delimiter line)
    (tailEnds : m.tail.toList.getLast? = some last) (apart : last ≠ m.openBracket)
    : ¬ m.ClosesLine other line := by
  rintro ⟨front, closes⟩
  obtain ⟨before, ⟨made, -⟩, -⟩ := opens
  have ends : (Text.trim line).getLast? = some m.openBracket := by
    rw [made, ← List.append_assoc, ← List.append_assoc, List.getLast?_concat]
  have endsTail : (Text.trim line).getLast? = some last := by
    rw [← closes, ← List.cons_append, List.getLast?_append, List.getLast?_append, tailEnds]
    rfl
  exact apart (Option.some.inj (endsTail.symm.trans ends))

/-- No line of a block that fits in a literal closes it. -/
theorem not_closesLine_of_fitsIn {b : Block} {outer : List Char} {last : Char} (read : b.IsRead m)
    (fits : b.FitsIn m outer) (free : m.closeBracket ∉ outer)
    (tailEnds : m.tail.toList.getLast? = some last) (apart : last ≠ m.openBracket)
    {line : List Char} (member : line ∈ b.lines)
    : ¬ m.ClosesLine outer line := by
  cases b with
  | outside =>
    rw [List.mem_singleton.mp member]
    exact fits
  | literal delimiter opening body closing =>
    obtain ⟨opens, -, closes⟩ := read
    obtain ⟨ownFree, different, inside⟩ := fits
    rw [Block.lines, List.mem_cons, List.mem_append, List.mem_singleton] at member
    rcases member with rfl | inBody | rfl
    · exact opens.not_closesLine tailEnds apart
    · exact inside line inBody
    · exact fun closesOuter => different (closes.unique closesOuter ownFree free)

-----------------------------------------------------------------------------------------
-- A literal around blocks
-----------------------------------------------------------------------------------------

theorem isFirm_default
    : ({} : Marker).IsFirm := by
  refine ⟨⟨'R', ?_, ?_⟩, ?_, ?_, ⟨';', ?_, ?_⟩, ?_⟩ <;> decide +kernel

/-- The text of a literal with the usual marker around the lines of another text. -/
def wrapped (delimiter inner : String) : String :=
  "R\"" ++ delimiter ++ "(\n" ++ inner ++ ")" ++ delimiter ++ "\";"

/-- The text of a literal around blocks is that of the literal as it is written. -/
theorem wrapped_text (delimiter : String) (blocks : List Block)
    : (wrapped delimiter (Block.text blocks)).toList ++ ['\n']
      = Text.unlines
          (Document.lines {}
            [.literal { delimiter := delimiter.toList, body := blocks.flatMap Block.lines }]) := by
  simp [wrapped, Block.text, Document.lines, Item.lines, WrittenLiteral.lines, Frame.line,
    openingText, closing, Text.unlines]

/-- The lines of blocks that fit in a literal with the usual marker are kept in it as they are. -/
theorem lines_kept {outer : List Char} {blocks : List Block} (free : ')' ∉ outer)
    (fit
      : ∀ b ∈ blocks,
          b.IsRead {} ∧ b.FitsIn {} outer ∧ ∀ line ∈ b.lines, '\n' ∉ line ∧ '\r' ∉ line)
    : ∀ line ∈ blocks.flatMap Block.lines,
        '\n' ∉ line
        ∧ line.getLast? ≠ some '\r'
        ∧ ¬ ({} : Marker).ClosesLine outer line := by
  intro line member
  obtain ⟨b, inBlocks, inBlock⟩ := List.mem_flatMap.mp member
  obtain ⟨read, fits, inLine⟩ := fit b inBlocks
  obtain ⟨noFeed, noReturn⟩ := inLine line inBlock
  have tailEnds : ({} : Marker).tail.toList.getLast? = some ';' := by decide +kernel
  refine ⟨noFeed, fun last => noReturn (List.mem_of_getLast? last), ?_⟩
  exact not_closesLine_of_fitsIn read fits free tailEnds (by decide) inBlock

/-- A literal around blocks that fit in it takes all of their lines, and is all that is found. -/
theorem scan_wrapped {outer : String} {blocks : List Block}
    (clean : '(' ∉ outer.toList ∧ '\n' ∉ outer.toList)
    (kept
      : ∀ line ∈ blocks.flatMap Block.lines,
          '\n' ∉ line
          ∧ line.getLast? ≠ some '\r'
          ∧ ¬ ({} : Marker).ClosesLine outer.toList line)
    : ({} : Marker).scan (wrapped outer (Block.text blocks) ++ "\n")
      = { literals := [⟨outer, 1, Block.text blocks⟩] } := by
  have plain : Frame.Fits {} := ⟨rfl, rfl, by simp⟩
  have clear
      : ∀ item ∈
            ([.literal
                { delimiter := outer.toList, body := blocks.flatMap Block.lines }]
              : Document),
          item.IsClear {} :=
    List.forall_mem_singleton.mpr
      ⟨plain, plain, fun i impossible => absurd impossible (Nat.not_lt_zero i), clean, kept⟩
  have written := scan_unlines isFirm_default clear
  rw [← wrapped_text, ← String.toList_singleton, ← String.toList_append, String.ofList_toList]
    at written
  rw [Document.literals, Document.literals, Literal.ofBody, String.ofList_toList] at written
  exact written

/-- A line that closes a literal with one delimiter closes none with another, if both are free of
close brackets. So a literal with the usual marker may be put around any number of others: it is all
that is found then, its content is the text of the others, and they are found in it.
-/
theorem scan_nested
    : (∀ (m : Marker) (delimiter other line : List Char),
          m.closeBracket ∉ delimiter
          → m.closeBracket ∉ other
          → m.closing other <:+ Text.trim line
          → (m.closes delimiter (Text.trim line) = true ↔ other = delimiter))
      ∧ ∀ (outer : String) (blocks : List Block),
          '(' ∉ outer.toList ∧ ')' ∉ outer.toList ∧ '\n' ∉ outer.toList
          → (∀ b ∈ blocks,
              b.IsRead {}
              ∧ b.FitsIn {} outer.toList
              ∧ ∀ line ∈ b.lines, '\n' ∉ line ∧ '\r' ∉ line)
          → (∀ ending ∈ ["", "\n"],
                ({} : Marker).scan (wrapped outer (Block.text blocks) ++ ending)
                = { literals := [⟨outer, 1, Block.text blocks⟩] })
            ∧ ({} : Marker).scan (Block.text blocks)
              = { literals := Block.literals 1 blocks } := by
  constructor
  · intro m delimiter other line free otherFree ends
    rw [closes_eq_true_iff]
    constructor
    · exact fun closes => ClosesLine.unique ends closes otherFree free
    · rintro rfl
      exact ends
  · rintro outer blocks ⟨openFree, closeFree, clean⟩ fit
    have kept := lines_kept closeFree fit
    have whole := scan_wrapped ⟨openFree, clean⟩ kept
    constructor
    · intro ending member
      rw [List.mem_cons, List.mem_singleton] at member
      rcases member with rfl | rfl
      · rw [String.append_empty, ← scan_append_newline]
        exact whole
      · exact whole
    · have read := Block.reads_lines (fun b member => (fit b member).1) 1
      rw [scan, Block.text, String.toList_ofList,
        Text.lines_unlines_of_bare fun line member =>
          ⟨(kept line member).1, (kept line member).2.1⟩]
      exact read.eq_scanLines.symm

/-- Two literals behind a line outside. The first has a delimiter that differs from `x` in case only
and holds lines that would open one with `x` and close others, and the delimiter of the second one
ends with `x`.
-/
def twoInside : List Block :=
  [
    .outside "int main() \x7b".toList,
    .literal "X".toList "\tcall(R\"X( ".toList ["R\"x(".toList, ")y\";".toList] "end)X\";".toList,
    .literal "yx".toList "R\"yx(".toList [] ")yx\";".toList
  ]

/-- In a literal with the delimiter `x` both are part of its content, and are found in it. The line
that closes the first of them does not close that literal.
-/
theorem scan_nested_two_inside
    : (({} : Marker).closing "X".toList <:+ Text.trim "end)X\";".toList
        ∧ ({} : Marker).closes "x".toList (Text.trim "end)X\";".toList) = false)
      ∧ ('(' ∉ "x".toList ∧ ')' ∉ "x".toList ∧ '\n' ∉ "x".toList)
      ∧ (∀ b ∈ twoInside,
          b.IsRead {} ∧ b.FitsIn {} "x".toList ∧ ∀ line ∈ b.lines, '\n' ∉ line ∧ '\r' ∉ line)
      ∧ ({} : Marker).scan
            ("R\"x(\nint main() \x7b\n\tcall(R\"X( \nR\"x(\n)y\";\nend)X\";\n"
              ++ "R\"yx(\n)yx\";\n)x\";")
        = { literals := [⟨"x", 1, Block.text twoInside⟩] }
      ∧ ({} : Marker).scan (Block.text twoInside)
        = { literals := [⟨"X", 2, "R\"x(\n)y\";\n"⟩, ⟨"yx", 6, ""⟩] } := by
  have free : '(' ∉ "x".toList ∧ ')' ∉ "x".toList ∧ '\n' ∉ "x".toList := by decide +kernel
  have fit
      : ∀ b ∈ twoInside,
          b.IsRead {}
          ∧ b.FitsIn {} "x".toList
          ∧ ∀ line ∈ b.lines, '\n' ∉ line ∧ '\r' ∉ line := by
    decide +kernel
  have closesOwn : ({} : Marker).closing "X".toList <:+ Text.trim "end)X\";".toList := by
    decide +kernel
  have closesOnly := scan_nested.1 {} "x".toList "X".toList _ (by decide) (by decide) closesOwn
  obtain ⟨whole, inside⟩ := scan_nested.2 "x" twoInside free fit
  exact ⟨⟨closesOwn, Bool.eq_false_iff.mpr (mt closesOnly.mp (by decide))⟩, free, fit,
    whole "" List.mem_cons_self, inside⟩

end Marker

end Casebook
