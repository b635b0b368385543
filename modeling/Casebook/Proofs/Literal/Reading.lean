import Casebook.Literal
import Casebook.Proofs.Marker.Opening

/-! Scans as readings of lines. A reading takes lines off in blocks: one line outside of all
literals, one closed literal, or all that is left from the opening of a literal that is not
closed. Every list of lines has exactly one reading, and it is what a scan finds.
-/

namespace Casebook

/-- The literal that was opened in a line with the lines of `body` behind it. -/
def Literal.ofBody (line : Nat) (delimiter : List Char) (body : List (List Char)) : Literal where
  delimiter := String.ofList delimiter
  line := line
  content := String.ofList (Text.unlines body)

namespace Marker

/-- What is found in lines that are numbered from a number on. -/
inductive Reads (m : Marker) : Nat → List (List Char) → Scan → Prop
  | done {number} : m.Reads number [] {}
  | outside {number line rest found} (closed : ∀ delimiter, ¬ m.OpensLine delimiter line)
    (below : m.Reads (number + 1) rest found)
    : m.Reads number (line :: rest) found
  | literal {number opening delimiter body closing rest found}
    (opens : m.OpensLine delimiter opening)
    (inside : ∀ line ∈ body, ¬ m.ClosesLine delimiter line)
    (closes : m.ClosesLine delimiter closing)
    (below : m.Reads (number + body.length + 2) rest found)
    : m.Reads number (opening :: (body ++ closing :: rest))
        (found.cons (.ofBody number delimiter body))
  | unterminated {number opening delimiter body} (opens : m.OpensLine delimiter opening)
    (inside : ∀ line ∈ body, ¬ m.ClosesLine delimiter line)
    : m.Reads number (opening :: body)
        { unterminated := some { line := number, delimiter := String.ofList delimiter } }

/-- Lines that do not close a literal are kept in it, the latest first, by induction on them. -/
theorem scanLines_inside {m : Marker} (number : Nat) {o : Opened} {body : List (List Char)}
    (inside : ∀ line ∈ body, ¬ m.ClosesLine o.delimiter line) (rest : List (List Char))
    : m.scanLines number (some o) (body ++ rest)
      = m.scanLines (number + body.length) (some { o with body := body.reverse ++ o.body })
          rest := by
  induction body generalizing number o with
  | nil => rfl
  | cons line body ih =>
    have kept : ¬ m.closes o.delimiter (Text.trim line) = true :=
      mt closes_eq_true_iff.mp (inside line List.mem_cons_self)
    have below := ih (number + 1) (o := o.push line)
      fun other member => inside other (List.mem_cons_of_mem line member)
    rw [List.cons_append, scanLines, if_neg kept, below]
    simp [Opened.push, Nat.add_comm, Nat.add_left_comm]

/-- A literal takes the lines up to the first that closes it, and the scan goes on behind. -/
theorem scanLines_literal {m : Marker} {number : Nat} {opening delimiter closing : List Char}
    {body : List (List Char)} (opens : m.OpensLine delimiter opening)
    (inside : ∀ line ∈ body, ¬ m.ClosesLine delimiter line)
    (closes : m.ClosesLine delimiter closing) (rest : List (List Char))
    : m.scanLines number none (opening :: (body ++ closing :: rest))
      = (m.scanLines (number + body.length + 2) none rest).cons
          (.ofBody number delimiter body) := by
  have counted : number + 1 + body.length + 1 = number + body.length + 2 := by omega
  rw [scanLines, opening?_eq_some_iff.mpr opens]
  dsimp only
  rw [scanLines_inside (number + 1) inside, scanLines, if_pos (closes_eq_true_iff.mpr closes), counted]
  simp [Opened.close, Literal.ofBody]

/-- A literal that no line closes takes all lines and is left open. -/
theorem scanLines_unterminated {m : Marker} {number : Nat} {opening delimiter : List Char}
    {body : List (List Char)} (opens : m.OpensLine delimiter opening)
    (inside : ∀ line ∈ body, ¬ m.ClosesLine delimiter line)
    : m.scanLines number none (opening :: body)
      = { unterminated :=
            some { line := number, delimiter := String.ofList delimiter } } := by
  have all := scanLines_inside (number + 1) (o := { line := number, delimiter := delimiter })
    inside []
  rw [List.append_nil] at all
  rw [scanLines, opening?_eq_some_iff.mpr opens]
  dsimp only
  rw [all, scanLines, Opened.abandon]

/-- Some line is the first to close a literal, unless none does. -/
theorem exists_closing_or_not (m : Marker) (delimiter : List Char) (ls : List (List Char))
    : (∀ line ∈ ls, ¬ m.ClosesLine delimiter line)
      ∨ ∃ body closing rest,
          ls = body ++ closing :: rest
          ∧ (∀ line ∈ body, ¬ m.ClosesLine delimiter line)
          ∧ m.ClosesLine delimiter closing := by
  cases found : ls.find? fun line => m.closes delimiter (Text.trim line) with
  | none =>
    left
    intro line member
    exact mt closes_eq_true_iff.mpr (List.find?_eq_none.mp found line member)
  | some closing =>
    obtain ⟨closes, body, rest, made, inside⟩ := List.find?_eq_some_iff_append.mp found
    refine Or.inr ⟨body, closing, rest, made, ?_, closes_eq_true_iff.mp closes⟩
    intro line member closesLine
    have kept := inside line member
    rw [closes_eq_true_iff.mpr closesLine] at kept
    cases kept

/-- A scan is a reading of its lines. Each step takes at least one line off. -/
theorem reads_scanLines (m : Marker) (number : Nat) (ls : List (List Char))
    : m.Reads number ls (m.scanLines number none ls) := by
  match ls with
  | [] => exact .done
  | line :: rest =>
    cases found : m.opening? (Text.trim line) with
    | none =>
      rw [scanLines, found]
      exact .outside (opening?_eq_none_iff.mp found) (reads_scanLines m (number + 1) rest)
    | some delimiter =>
      have opens : m.OpensLine delimiter line := opening?_eq_some_iff.mp found
      rcases m.exists_closing_or_not delimiter rest with
        inside | ⟨body, closing, after, made, inside, closes⟩
      · rw [scanLines_unterminated opens inside]
        exact .unterminated opens inside
      · have shorter : after.length < rest.length := by
          rw [made, List.length_append, List.length_cons]
          omega
        rw [made, scanLines_literal opens inside closes]
        exact .literal opens inside closes (reads_scanLines m _ after)
termination_by ls.length
decreasing_by
  · simp
  · rw [List.length_cons]
    omega

/-- Lines have no other reading than their scan, by induction on the reading. -/
theorem Reads.eq_scanLines {m : Marker} {number : Nat} {ls : List (List Char)} {found : Scan}
    (reading : m.Reads number ls found)
    : found = m.scanLines number none ls := by
  induction reading with
  | done => rfl
  | outside closed _ ih =>
    rw [scanLines, opening?_eq_none_iff.mpr closed]
    exact ih
  | literal opens inside closes _ ih => rw [scanLines_literal opens inside closes, ih]
  | unterminated opens inside => rw [scanLines_unterminated opens inside]

/-- The scan is the one reading of its lines. -/
theorem reads_iff {m : Marker} {number : Nat} {ls : List (List Char)} {found : Scan}
    : m.Reads number ls found ↔ found = m.scanLines number none ls :=
  ⟨Reads.eq_scanLines, fun same => same ▸ m.reads_scanLines number ls⟩

end Marker

end Casebook
