import Casebook.Marker

/-! Opening and closing lines by what they are made of. The search for an opening finds the
leftmost one that reaches the end of a text, and the delimiter of that one only.
-/

namespace Casebook.Marker

/-- What follows `before` in `text` is an opening and takes all that is left: the lead, a
delimiter free of open brackets, and one open bracket.
-/
def OpensAfter (m : Marker) (before delimiter text : List Char) : Prop :=
  text = before ++ (m.lead.toList ++ (delimiter ++ [m.openBracket])) ∧ m.openBracket ∉ delimiter

/-- `text` ends with an opening with `delimiter`, and no opening that reaches the end starts
further to the left.
-/
def Opens (m : Marker) (delimiter text : List Char) : Prop :=
  ∃ before,
    m.OpensAfter before delimiter text
    ∧ ∀ earlier other, m.OpensAfter earlier other text → before.length ≤ earlier.length

/-- The line opens a literal with `delimiter`; blanks around it are not looked at. -/
def OpensLine (m : Marker) (delimiter line : List Char) : Prop :=
  m.Opens delimiter (Text.trim line)

/-- The line closes a literal with `delimiter`; blanks around it are not looked at. -/
def ClosesLine (m : Marker) (delimiter line : List Char) : Prop :=
  m.closeBracket :: (delimiter ++ m.tail.toList) <:+ Text.trim line

/-- The delimiter of an opening that takes a whole text, by taking the lead off its front and
the open bracket off its end.
-/
theorem delimiterAt?_eq_some_iff {m : Marker} {text delimiter : List Char}
    : m.delimiterAt? text = some delimiter ↔ m.OpensAfter [] delimiter text := by
  unfold delimiterAt? OpensAfter
  constructor
  · intro found
    split at found
    next leads =>
      obtain ⟨rest, rfl⟩ := List.isPrefixOf_iff_prefix.mp leads
      simp only [List.drop_left] at found
      split at found
      next ends =>
        obtain ⟨front, rfl⟩ := List.getLast?_eq_some_iff.mp ends.1
        rw [List.dropLast_concat] at found ends
        cases found
        exact ⟨rfl, ends.2⟩
      next => cases found
    next => cases found
  · rintro ⟨rfl, free⟩
    have leads : m.lead.toList.isPrefixOf (m.lead.toList ++ (delimiter ++ [m.openBracket])) :=
      List.isPrefixOf_iff_prefix.mpr (List.prefix_append _ _)
    simp [leads, free]

/-- An opening is no longer one when its text is cut before its end. -/
theorem not_opensAfter_nil {m : Marker} {before delimiter : List Char}
    : ¬ m.OpensAfter before delimiter [] := by
  rintro ⟨made, -⟩
  simp at made

/-- An opening stays one when a character is put in front of its text. -/
theorem OpensAfter.cons {m : Marker} {before delimiter text : List Char} (c : Char)
    (opens : m.OpensAfter before delimiter text)
    : m.OpensAfter (c :: before) delimiter (c :: text) :=
  ⟨congrArg (c :: ·) opens.1, opens.2⟩

/-- An opening that does not take the first character is one of the text behind it. -/
theorem OpensAfter.of_cons {m : Marker} {c : Char} {before delimiter text : List Char}
    (opens : m.OpensAfter before delimiter (c :: text)) (later : before ≠ [])
    : ∃ after, before = c :: after ∧ m.OpensAfter after delimiter text := by
  obtain ⟨made, free⟩ := opens
  cases before with
  | nil => exact absurd rfl later
  | cons first after =>
    obtain ⟨rfl, rest⟩ := List.cons.inj made
    exact ⟨after, rfl, rest, free⟩

/-- The search finds the leftmost opening that reaches the end, by induction on the text: an
opening at the first character wins, and without one all openings are in the rest.
-/
theorem opening?_eq_some_iff {m : Marker} {text delimiter : List Char}
    : m.opening? text = some delimiter ↔ m.Opens delimiter text := by
  induction text with
  | nil =>
    rw [opening?, delimiterAt?_eq_some_iff]
    constructor
    · exact fun opens => (not_opensAfter_nil opens).elim
    · exact fun ⟨_, opens, _⟩ => (not_opensAfter_nil opens).elim
  | cons c text ih =>
    rw [opening?]
    cases found : m.delimiterAt? (c :: text) with
    | some first =>
      have atStart := delimiterAt?_eq_some_iff.mp found
      constructor
      · rintro ⟨⟩
        exact ⟨[], atStart, fun _ _ _ => Nat.zero_le _⟩
      · rintro ⟨before, opens, least⟩
        obtain rfl : before = [] :=
          List.eq_nil_of_length_eq_zero (Nat.le_zero.mp (least [] first atStart))
        exact found.symm.trans (delimiterAt?_eq_some_iff.mpr opens)
    | none =>
      have notAtStart : ∀ {before other}, m.OpensAfter before other (c :: text) → before ≠ [] := by
        rintro _ other opens rfl
        exact absurd (found.symm.trans (delimiterAt?_eq_some_iff.mpr opens)) nofun
      refine ih.trans ⟨?_, ?_⟩
      · rintro ⟨before, opens, least⟩
        refine ⟨c :: before, opens.cons c, ?_⟩
        intro earlier other opensEarlier
        obtain ⟨after, rfl, opensAfter⟩ := opensEarlier.of_cons (notAtStart opensEarlier)
        exact Nat.succ_le_succ (least after other opensAfter)
      · rintro ⟨before, opens, least⟩
        obtain ⟨after, rfl, opensAfter⟩ := opens.of_cons (notAtStart opens)
        refine ⟨after, opensAfter, ?_⟩
        intro earlier other opensEarlier
        exact Nat.le_of_succ_le_succ (least (c :: earlier) other (opensEarlier.cons c))

/-- A line is an opening for one delimiter at most. -/
theorem OpensLine.unique {m : Marker} {line first second : List Char}
    (left : m.OpensLine first line) (right : m.OpensLine second line)
    : first = second :=
  Option.some.inj
    ((opening?_eq_some_iff.mpr left).symm.trans (opening?_eq_some_iff.mpr right))

/-- The search finds nothing exactly in lines that open no literal. -/
theorem opening?_eq_none_iff {m : Marker} {line : List Char}
    : m.opening? (Text.trim line) = none ↔ ∀ delimiter, ¬ m.OpensLine delimiter line := by
  rw [Option.eq_none_iff_forall_ne_some]
  exact forall_congr' fun _ => not_congr opening?_eq_some_iff

/-- The test for the end of a literal holds exactly in lines that close it. -/
theorem closes_eq_true_iff {m : Marker} {delimiter line : List Char}
    : m.closes delimiter (Text.trim line) = true ↔ m.ClosesLine delimiter line :=
  List.isSuffixOf_iff_suffix

instance (m : Marker) (delimiter line : List Char) : Decidable (m.OpensLine delimiter line) :=
  decidable_of_iff _ opening?_eq_some_iff

instance (m : Marker) (line : List Char) : Decidable (∀ delimiter, ¬ m.OpensLine delimiter line) :=
  decidable_of_iff _ opening?_eq_none_iff

instance (m : Marker) (delimiter line : List Char) : Decidable (m.ClosesLine delimiter line) :=
  decidable_of_iff _ closes_eq_true_iff

end Casebook.Marker
