import Casebook.Text.Blank

/-! What trimming leaves. Blanks around a text go, and a text that neither begins nor ends with one
stays whole at the end of its line.
-/

namespace Casebook.Text

theorem isAllBlank_iff {text : List Char}
    : isAllBlank text = true ↔ ∀ c ∈ text, isBlank c = true :=
  List.all_eq_true

theorem trimStart_append_of_blank {blanks : List Char} (blank : isAllBlank blanks = true)
    (text : List Char)
    : trimStart (blanks ++ text) = trimStart text :=
  List.dropWhile_append_of_pos (isAllBlank_iff.mp blank)

theorem trimEnd_append_of_blank (text : List Char) {blanks : List Char}
    (blank : isAllBlank blanks = true)
    : trimEnd (text ++ blanks) = trimEnd text := by
  have reversed : ∀ c ∈ blanks.reverse, isBlank c = true := by
    intro c member
    exact isAllBlank_iff.mp blank c (List.mem_reverse.mp member)
  rw [trimEnd, trimEnd, List.reverse_append, List.dropWhile_append_of_pos reversed]

/-- Blanks behind a text are not looked at: they stay behind what is left of its start, or all of
it is blank.
-/
theorem trim_append_of_blank (text : List Char) {blanks : List Char}
    (blank : isAllBlank blanks = true)
    : trim (text ++ blanks) = trim text := by
  have allDropped : blanks.dropWhile isBlank = [] := by
    have dropped := trimStart_append_of_blank blank []
    rwa [List.append_nil] at dropped
  unfold trim trimStart
  rw [List.dropWhile_append]
  split
  next gone => rw [allDropped, List.isEmpty_iff.mp gone]
  next => exact trimEnd_append_of_blank _ blank

/-- A text that begins and ends with characters that are not blank is left whole behind what is
left of the text before it.
-/
theorem trim_append_core (front : List Char) {core : List Char} {first last : Char}
    (starts : core.head? = some first) (firstSeen : isBlank first = false)
    (ends : core.getLast? = some last) (lastSeen : isBlank last = false)
    : trim (front ++ core) = trimStart front ++ core := by
  have start : trimStart (front ++ core) = trimStart front ++ core := by
    obtain ⟨rest, rfl⟩ := List.head?_eq_some_iff.mp starts
    have kept : (first :: rest).dropWhile isBlank = first :: rest := by
      rw [List.dropWhile_cons, firstSeen, if_neg Bool.false_ne_true]
    rw [trimStart, trimStart, List.dropWhile_append]
    split
    next gone =>
      rw [List.isEmpty_iff] at gone
      rw [gone, kept, List.nil_append]
    next => rfl
  obtain ⟨init, rfl⟩ := List.getLast?_eq_some_iff.mp ends
  rw [trim, start, trimEnd, ← List.append_assoc, List.reverse_append, List.reverse_singleton,
    List.singleton_append, List.dropWhile_cons, lastSeen, if_neg Bool.false_ne_true,
    ← List.singleton_append, List.reverse_append, List.reverse_reverse, List.reverse_singleton]

end Casebook.Text
