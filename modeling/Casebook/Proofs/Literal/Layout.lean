import Casebook.Proofs.Literal.Reading
import Casebook.Proofs.Text.Line

/-! Where literals stand in a text. What a scan finds is stated by line numbers alone: which lines
open, fill and close each literal, and that no other line opens one. Nothing but the scan meets
the statement.
-/

namespace Casebook

/-- What comes behind the front of a list is what comes behind a shorter front of it. -/
private theorem split_behind {α : Type} {front ls before after : List α} {x : α}
    (made : front ++ ls = before ++ x :: after) (longer : front.length ≤ before.length)
    : ∃ rest, before = front ++ rest ∧ ls = rest ++ x :: after := by
  obtain ⟨rest, rfl⟩ : front <+: before :=
    List.prefix_of_prefix_length_le ⟨ls, made⟩ (List.prefix_append _ _) longer
  refine ⟨rest, rfl, ?_⟩
  rw [List.append_assoc] at made
  exact List.append_cancel_left made

namespace Literal

/-- The number of the line that closes the literal. -/
def lastLine (l : Literal) : Nat :=
  l.line + l.lineCount + 1

/-- The literal stands in lines that are numbered from `first` on. The line with its number opens
it, as many lines as its content has follow and are its content, none of them closes it, and the
line behind them does.
-/
def StandsIn (l : Literal) (m : Marker) (first : Nat) (ls : List (List Char)) : Prop :=
  ∃ before opening body closing after,
    ls = before ++ opening :: (body ++ closing :: after)
    ∧ l.line = first + before.length
    ∧ l.lineCount = body.length
    ∧ m.OpensLine l.delimiter.toList opening
    ∧ l.content = String.ofList (Text.unlines body)
    ∧ (∀ line ∈ body, ¬ m.ClosesLine l.delimiter.toList line)
    ∧ m.ClosesLine l.delimiter.toList closing

theorem StandsIn.first_le {l : Literal} {m : Marker} {first : Nat} {ls : List (List Char)}
    (stands : l.StandsIn m first ls)
    : first ≤ l.line := by
  obtain ⟨before, _, _, _, _, _, number, _⟩ := stands
  omega

/-- Lines in front of a literal move it and change nothing else. -/
theorem StandsIn.behind {l : Literal} {m : Marker} {first : Nat} (front : List (List Char))
    {ls : List (List Char)} (stands : l.StandsIn m (first + front.length) ls)
    : l.StandsIn m first (front ++ ls) := by
  obtain ⟨before, opening, body, closing, after, rfl, number, filled⟩ := stands
  refine ⟨front ++ before, opening, body, closing, after, ?_, ?_, filled⟩
  · rw [List.append_assoc]
  · rw [number, List.length_append, Nat.add_assoc]

/-- A literal that starts behind some lines stands in the lines that follow them. -/
theorem StandsIn.of_behind {l : Literal} {m : Marker} {first : Nat}
    {front ls : List (List Char)} (stands : l.StandsIn m first (front ++ ls))
    (later : first + front.length ≤ l.line)
    : l.StandsIn m (first + front.length) ls := by
  obtain ⟨before, opening, body, closing, after, made, number, filled⟩ := stands
  obtain ⟨rest, rfl, left⟩ := split_behind made (by omega)
  refine ⟨rest, opening, body, closing, after, left, ?_, filled⟩
  rw [number, List.length_append, Nat.add_assoc]

/-- A literal with the number of the first line is opened there and closed by the first line that
can close it.
-/
theorem StandsIn.head {l : Literal} {m : Marker} {line : List Char} {rest : List (List Char)}
    (stands : l.StandsIn m l.line (line :: rest))
    : m.OpensLine l.delimiter.toList line
      ∧ ∃ body closing after,
          rest = body ++ closing :: after
          ∧ l.lastLine = l.line + body.length + 1
          ∧ l = .ofBody l.line l.delimiter.toList body
          ∧ (∀ other ∈ body, ¬ m.ClosesLine l.delimiter.toList other)
          ∧ m.ClosesLine l.delimiter.toList closing := by
  obtain ⟨before, opening, body, closing, after, made, number, count, opens, content, inside,
    closes⟩ := stands
  obtain rfl : before = [] := List.eq_nil_of_length_eq_zero (by omega)
  obtain ⟨rfl, left⟩ := List.cons.inj made
  refine ⟨opens, body, closing, after, left, ?_, ?_, inside, closes⟩
  · rw [lastLine, count]
  · rw [ofBody, String.ofList_toList, ← content]

end Literal

namespace OpenLiteral

/-- The literal is opened in the line with its number, among lines that are numbered from `first`
on, and no line behind that one closes it.
-/
def StandsIn (u : OpenLiteral) (m : Marker) (first : Nat) (ls : List (List Char)) : Prop :=
  ∃ before opening after,
    ls = before ++ opening :: after
    ∧ u.line = first + before.length
    ∧ m.OpensLine u.delimiter.toList opening
    ∧ ∀ line ∈ after, ¬ m.ClosesLine u.delimiter.toList line

theorem StandsIn.first_le {u : OpenLiteral} {m : Marker} {first : Nat} {ls : List (List Char)}
    (stands : u.StandsIn m first ls)
    : first ≤ u.line := by
  obtain ⟨before, _, _, _, number, _⟩ := stands
  omega

/-- Lines in front of a literal left open move it and change nothing else. -/
theorem StandsIn.behind {u : OpenLiteral} {m : Marker} {first : Nat} (front : List (List Char))
    {ls : List (List Char)} (stands : u.StandsIn m (first + front.length) ls)
    : u.StandsIn m first (front ++ ls) := by
  obtain ⟨before, opening, after, rfl, number, filled⟩ := stands
  refine ⟨front ++ before, opening, after, ?_, ?_, filled⟩
  · rw [List.append_assoc]
  · rw [number, List.length_append, Nat.add_assoc]

/-- A literal left open behind some lines is left open in the lines that follow them. -/
theorem StandsIn.of_behind {u : OpenLiteral} {m : Marker} {first : Nat}
    {front ls : List (List Char)} (stands : u.StandsIn m first (front ++ ls))
    (later : first + front.length ≤ u.line)
    : u.StandsIn m (first + front.length) ls := by
  obtain ⟨before, opening, after, made, number, filled⟩ := stands
  obtain ⟨rest, rfl, left⟩ := split_behind made (by omega)
  refine ⟨rest, opening, after, left, ?_, filled⟩
  rw [number, List.length_append, Nat.add_assoc]

/-- A literal left open with the number of the first line is opened there. -/
theorem StandsIn.head {u : OpenLiteral} {m : Marker} {line : List Char} {rest : List (List Char)}
    (stands : u.StandsIn m u.line (line :: rest))
    : m.OpensLine u.delimiter.toList line
      ∧ ∀ other ∈ rest, ¬ m.ClosesLine u.delimiter.toList other := by
  obtain ⟨before, opening, after, made, number, opens, inside⟩ := stands
  obtain rfl : before = [] := List.eq_nil_of_length_eq_zero (by omega)
  obtain ⟨rfl, rfl⟩ := List.cons.inj made
  exact ⟨opens, inside⟩

end OpenLiteral

namespace Scan

/-- The scan tells all literals of lines that are numbered from `first` on: each stands where it
says, they follow each other without a line in common, the one left open comes last, and a line
outside of all of them opens none.
-/
structure Describes (s : Scan) (m : Marker) (first : Nat) (ls : List (List Char)) : Prop where
  literals : ∀ l ∈ s.literals, l.StandsIn m first ls
  ordered : s.literals.Pairwise fun earlier later => earlier.lastLine < later.line
  outside
    : ∀ before line after,
        ls = before ++ line :: after
        → (∀ l ∈ s.literals,
            first + before.length < l.line ∨ l.lastLine < first + before.length)
        → (∀ u, s.unterminated = some u → first + before.length < u.line)
        → ∀ delimiter, ¬ m.OpensLine delimiter line
  unterminated
    : ∀ u, s.unterminated = some u →
        u.StandsIn m first ls ∧ ∀ l ∈ s.literals, l.lastLine < u.line

/-- Literals that start behind some lines are all there is in the lines that follow them, if the
other literals end before.
-/
theorem Describes.of_behind {s : Scan} {m : Marker} {first : Nat} {front ls : List (List Char)}
    {early late : List Literal} (described : s.Describes m first (front ++ ls))
    (parts : s.literals = early ++ late)
    (ended : ∀ l ∈ early, l.lastLine < first + front.length)
    (later : ∀ l ∈ late, first + front.length ≤ l.line)
    (openLater : ∀ u, s.unterminated = some u → first + front.length ≤ u.line)
    : Describes { literals := late, unterminated := s.unterminated } m (first + front.length)
        ls := by
  have known {l : Literal} (member : l ∈ late) : l ∈ s.literals :=
    parts ▸ List.mem_append_right early member
  refine ⟨?_, ?_, ?_, ?_⟩
  · intro l member
    exact (described.literals l (known member)).of_behind (later l member)
  · have ordered := described.ordered
    rw [parts] at ordered
    exact (List.pairwise_append.mp ordered).2.1
  · intro before line after made apart openApart
    have number : first + (front ++ before).length = first + front.length + before.length := by
      rw [List.length_append, Nat.add_assoc]
    refine described.outside (front ++ before) line after ?_ ?_ ?_
    · rw [made, List.append_assoc]
    · intro l member
      rw [number]
      rcases List.mem_append.mp (parts ▸ member) with inEarly | inLate
      · have := ended l inEarly
        omega
      · exact apart l inLate
    · rw [number]
      exact openApart
  · intro u open_
    obtain ⟨stands, last⟩ := described.unterminated u open_
    exact ⟨stands.of_behind (openLater u open_), fun l member => last l (known member)⟩

/-- There is nothing to tell of no lines. -/
theorem Describes.of_nil {s : Scan} {m : Marker} {first : Nat} (described : s.Describes m first [])
    : s = {} := by
  obtain ⟨literals, unterminated⟩ := s
  have noLiteral : literals = [] := by
    refine List.eq_nil_iff_forall_not_mem.mpr fun l member => ?_
    obtain ⟨before, _, _, _, _, made, _⟩ := described.literals l member
    simp at made
  have noneOpen : unterminated = none := by
    refine Option.eq_none_iff_forall_ne_some.mpr fun u open_ => ?_
    obtain ⟨⟨before, _, _, made, _⟩, _⟩ := described.unterminated u open_
    simp at made
  rw [noLiteral, noneOpen]

/-- Of lines whose first opens nothing, all is told by what is told of the lines behind it. -/
theorem Describes.of_outside {s : Scan} {m : Marker} {first : Nat} {line : List Char}
    {rest : List (List Char)} (described : s.Describes m first (line :: rest))
    (closed : ∀ delimiter, ¬ m.OpensLine delimiter line)
    : s.Describes m (first + 1) rest := by
  have behind : s.Describes m first ([line] ++ rest) := described
  have parts : s.literals = [] ++ s.literals := rfl
  refine behind.of_behind parts (by simp) ?_ ?_
  · intro l member
    have stands := described.literals l member
    have notFirst : l.line ≠ first := fun same => closed _ (same ▸ stands).head.1
    exact Nat.lt_of_le_of_ne stands.first_le notFirst.symm
  · intro u open_
    have stands := (described.unterminated u open_).1
    have notFirst : u.line ≠ first := fun same => closed _ (same ▸ stands).head.1
    exact Nat.lt_of_le_of_ne stands.first_le notFirst.symm

/-- A literal with the number of the first line is the first literal. -/
theorem Describes.literals_eq_cons {s : Scan} {m : Marker} {first : Nat} {ls : List (List Char)}
    (described : s.Describes m first ls) {l : Literal} (member : l ∈ s.literals)
    (atFirst : l.line = first)
    : ∃ late, s.literals = l :: late ∧ ∀ other ∈ late, l.lastLine < other.line := by
  have ordered := described.ordered
  cases known : s.literals with
  | nil => simp [known] at member
  | cons head late =>
    rw [known] at member ordered
    obtain ⟨apart, -⟩ := List.pairwise_cons.mp ordered
    rcases List.mem_cons.mp member with rfl | inLate
    · exact ⟨late, rfl, apart⟩
    · have before := apart l inLate
      have := (described.literals head (known ▸ List.mem_cons_self)).first_le
      rw [Literal.lastLine] at before
      omega

/-- A first line that opens a literal opens the first one told or the one left open. -/
theorem Describes.of_opens {s : Scan} {m : Marker} {first : Nat} {line delimiter : List Char}
    {rest : List (List Char)} (described : s.Describes m first (line :: rest))
    (opens : m.OpensLine delimiter line)
    : (∃ l ∈ s.literals, l.line = first) ∨ ∃ u, s.unterminated = some u ∧ u.line = first := by
  refine Classical.byContradiction fun none => ?_
  rw [not_or] at none
  refine described.outside [] line rest rfl ?_ ?_ delimiter opens
  · intro l member
    have notFirst : l.line ≠ first := fun same => none.1 ⟨l, member, same⟩
    exact Or.inl (Nat.lt_of_le_of_ne (described.literals l member).first_le notFirst.symm)
  · intro u open_
    have notFirst : u.line ≠ first := fun same => none.2 ⟨u, open_, same⟩
    exact Nat.lt_of_le_of_ne (described.unterminated u open_).1.first_le notFirst.symm

end Scan

/-- A literal has as many lines as its body, since no line of it is cut in two. -/
theorem Literal.lineCount_ofBody (number : Nat) (delimiter : List Char) {body : List (List Char)}
    (clean : ∀ line ∈ body, '\n' ∉ line)
    : (ofBody number delimiter body).lineCount = body.length := by
  unfold lineCount ofBody
  rw [String.toList_ofList, Text.length_lines_unlines clean]

namespace Marker

/-- A literal that a reading takes off stands in the lines it is taken from. -/
theorem ofBody_standsIn {m : Marker} (number : Nat) {opening delimiter closing : List Char}
    {body : List (List Char)} (rest : List (List Char)) (clean : ∀ line ∈ body, '\n' ∉ line)
    (opens : m.OpensLine delimiter opening)
    (inside : ∀ line ∈ body, ¬ m.ClosesLine delimiter line)
    (closes : m.ClosesLine delimiter closing)
    : (Literal.ofBody number delimiter body).lineCount = body.length
      ∧ (Literal.ofBody number delimiter body).StandsIn m number
          (opening :: (body ++ closing :: rest)) := by
  have count := Literal.lineCount_ofBody number delimiter clean
  refine ⟨count, [], opening, body, closing, rest, rfl, rfl, count, ?_, rfl, ?_⟩
  all_goals simp only [Literal.ofBody, String.toList_ofList]
  · exact opens
  · exact ⟨inside, closes⟩

/-- A reading describes its lines, by induction on it. The lines it takes off first stand in
front of all others, so what is found behind them only moves.
-/
theorem Reads.describes {m : Marker} {number : Nat} {ls : List (List Char)} {found : Scan}
    (reading : m.Reads number ls found) (clean : ∀ line ∈ ls, '\n' ∉ line)
    : found.Describes m number ls := by
  induction reading with
  | done => exact ⟨by simp, .nil, by simp, by simp⟩
  | @outside number line rest found closed below ih =>
    have behind := ih fun other member => clean other (List.mem_cons_of_mem line member)
    refine ⟨?_, behind.ordered, ?_, ?_⟩
    · exact fun l member => (behind.literals l member).behind [line]
    · intro before other after made apart openApart
      cases before with
      | nil =>
        obtain ⟨rfl, -⟩ := List.cons.inj made
        exact closed
      | cons first before =>
        have shift : number + (first :: before).length = number + 1 + before.length := by
          rw [List.length_cons]
          omega
        rw [shift] at apart openApart
        exact behind.outside before other after (List.cons.inj made).2 apart openApart
    · intro u open_
      obtain ⟨stands, last⟩ := behind.unterminated u open_
      exact ⟨stands.behind [line], last⟩
  | @literal number opening delimiter body closing rest found opens inside closes below ih =>
    have cleanBody : ∀ line ∈ body, '\n' ∉ line := fun line member => clean line (by simp [member])
    have behind := ih fun line member => clean line (by simp [member])
    obtain ⟨count, stands⟩ := ofBody_standsIn number rest cleanBody opens inside closes
    -- The lines of the literal, as the front of all lines.
    have front : opening :: (body ++ closing :: rest) = (opening :: (body ++ [closing])) ++ rest := by
      simp
    have length : number + (opening :: (body ++ [closing])).length = number + body.length + 2 := by
      simp only [List.length_cons, List.length_append, List.length_nil]
      omega
    have ended : (Literal.ofBody number delimiter body).lastLine = number + body.length + 1 := by
      rw [Literal.lastLine, count, Literal.ofBody]
    refine ⟨?_, ?_, ?_, ?_⟩
    · intro l member
      rcases List.mem_cons.mp member with rfl | member
      · exact stands
      · rw [front]
        exact Literal.StandsIn.behind _ (length ▸ behind.literals l member)
    · refine List.pairwise_cons.mpr ⟨fun l member => ?_, behind.ordered⟩
      have := (behind.literals l member).first_le
      omega
    · intro before line after made apart openApart
      have notInside := apart _ List.mem_cons_self
      rw [ended] at notInside
      have longer : (opening :: (body ++ [closing])).length ≤ before.length := by
        have : (Literal.ofBody number delimiter body).line = number := rfl
        omega
      obtain ⟨before, rfl, left⟩ := split_behind (front ▸ made) longer
      rw [List.length_append, ← Nat.add_assoc, length] at apart openApart
      exact behind.outside before line after left
        (fun l member => apart l (List.mem_cons_of_mem _ member)) openApart
    · intro u open_
      obtain ⟨openStands, last⟩ := behind.unterminated u open_
      refine ⟨front ▸ OpenLiteral.StandsIn.behind _ (length ▸ openStands), fun l member => ?_⟩
      rcases List.mem_cons.mp member with rfl | member
      · have := openStands.first_le
        omega
      · exact last l member
  | @unterminated number opening delimiter body opens inside =>
    refine ⟨by simp, .nil, ?_, ?_⟩
    · intro before line after made _ openApart
      have : number + before.length < number := openApart _ rfl
      omega
    · rintro u ⟨⟩
      refine ⟨⟨[], opening, body, rfl, rfl, ?_⟩, by simp⟩
      rw [String.toList_ofList]
      exact ⟨opens, inside⟩

/-- A description is a reading of its lines, by induction on how many there are. The first line
decides which block comes first: it opens nothing, or what it opens is the first literal or the
one left open.
-/
theorem reads_of_describes {m : Marker} {first : Nat} {ls : List (List Char)} {found : Scan}
    (described : found.Describes m first ls)
    : m.Reads first ls found := by
  match ls with
  | [] => exact described.of_nil ▸ .done
  | line :: rest =>
    by_cases opening : ∃ delimiter, m.OpensLine delimiter line
    · obtain ⟨delimiter, opens⟩ := opening
      rcases described.of_opens opens with ⟨l, member, rfl⟩ | ⟨u, open_, rfl⟩
      · obtain ⟨late, parts, apart⟩ := described.literals_eq_cons member rfl
        obtain ⟨opens, body, closing, after, rfl, ended, made, inside, closes⟩ :=
          (described.literals l member).head
        have length : l.line + (line :: (body ++ [closing])).length = l.line + body.length + 2 := by
          simp only [List.length_cons, List.length_append, List.length_nil]
          omega
        have described' : found.Describes m l.line ((line :: (body ++ [closing])) ++ after) := by
          simpa using described
        have parts' : found.literals = [l] ++ late := parts
        have behind :=
          described'.of_behind parts'
            (by
              intro other same
              rw [List.mem_singleton.mp same]
              omega)
            (by
              intro other inLate
              have := apart other inLate
              omega)
            (by
              intro u open_
              have := (described.unterminated u open_).2 l member
              omega)
        have reading := Reads.literal opens inside closes (reads_of_describes (length ▸ behind))
        have whole : found = { literals := l :: late, unterminated := found.unterminated } := by
          rw [← parts]
        rw [whole]
        exact made ▸ reading
      · have noLiteral : found.literals = [] := by
          refine List.eq_nil_iff_forall_not_mem.mpr fun l member => ?_
          have before := (described.unterminated u open_).2 l member
          have := (described.literals l member).first_le
          rw [Literal.lastLine] at before
          omega
        obtain ⟨opens, inside⟩ := (described.unterminated u open_).1.head
        have whole : found = { unterminated := some u } := by
          rw [← noLiteral, ← open_]
        rw [whole]
        have reading : m.Reads u.line (line :: rest) _ := .unterminated opens inside
        simpa only [String.ofList_toList] using reading
    · have closed : ∀ delimiter, ¬ m.OpensLine delimiter line :=
        fun delimiter opens => opening ⟨delimiter, opens⟩
      exact .outside closed (reads_of_describes (described.of_outside closed))
termination_by ls.length

/-- The scan of a text is the one description of its lines, numbered from one. -/
theorem describes_lines_iff (m : Marker) (text : String) (found : Scan)
    : found.Describes m 1 (Text.lines text.toList) ↔ found = m.scan text := by
  constructor
  · exact fun described => reads_iff.mp (reads_of_describes described)
  · intro same
    exact (reads_iff.mpr same).describes fun _ => Text.not_mem_of_mem_lines

end Marker

end Casebook
