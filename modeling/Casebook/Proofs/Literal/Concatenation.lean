import Casebook.Literal
import Casebook.Proofs.Text.Line

/-! Texts put one behind the other. What a scan carries from one line to the next is the literal
that is open there, so the scan of two texts is that of the first and then that of the second, begun
with the literal that the first one leaves open.
-/

namespace Casebook

/-- The literal with some lines more in front of it. -/
def Literal.moved (count : Nat) (l : Literal) : Literal :=
  { l with line := l.line + count }

/-- The literal left open with some lines more in front of it. -/
def OpenLiteral.moved (count : Nat) (u : OpenLiteral) : OpenLiteral :=
  { u with line := u.line + count }

def Opened.moved (count : Nat) (o : Opened) : Opened :=
  { o with line := o.line + count }

namespace Scan

/-- What is found where some lines more stand in front. -/
def moved (count : Nat) (s : Scan) : Scan where
  literals := s.literals.map (Literal.moved count)
  unterminated := s.unterminated.map (OpenLiteral.moved count)

/-- What is found in lines and then in those behind them. What the first lines leave open is told by
what is found behind.
-/
def thenFinds (s later : Scan) : Scan where
  literals := s.literals ++ later.literals
  unterminated := later.unterminated

/-- What is found behind the first literals. -/
def behind (s : Scan) (count : Nat) : Scan :=
  { s with literals := s.literals.drop count }

/-- Where the first literal is opened and with which delimiter, whether it is closed or not. -/
def first? (s : Scan) : Option OpenLiteral :=
  match s.literals with
  | [] => s.unterminated
  | l :: _ => some { line := l.line, delimiter := l.delimiter }

theorem behind_thenFinds (s later : Scan)
    : (s.thenFinds later).behind s.literals.length = later := by
  rw [behind, thenFinds, List.drop_left]

end Scan

namespace Marker

/-- The literal that is open behind some lines. -/
def openBehind (m : Marker) : Nat → Option Opened → List (List Char) → Option Opened
  | _, o, [] => o
  | number, none, line :: rest =>
    m.openBehind (number + 1)
      ((m.opening? (Text.trim line)).map fun delimiter =>
        { line := number, delimiter := delimiter })
      rest
  | number, some o, line :: rest =>
    m.openBehind (number + 1)
      (if m.closes o.delimiter (Text.trim line) then none else some (o.push line)) rest

/-- A scan goes on behind some lines with the literal that is open there, by induction on the lines.
-/
theorem scanLines_append (m : Marker) (number : Nat) (o : Option Opened)
    (front rest : List (List Char))
    : m.scanLines number o (front ++ rest)
      = (m.scanLines number o front).thenFinds
          (m.scanLines (number + front.length) (m.openBehind number o front) rest) := by
  induction front generalizing number o with
  | nil => cases o <;> rfl
  | cons line front ih =>
    have counted : number + (line :: front).length = number + 1 + front.length := by
      rw [List.length_cons, Nat.add_assoc, Nat.add_comm 1]
    rw [List.cons_append, counted]
    cases o with
    | none =>
      rw [scanLines, scanLines, openBehind]
      cases m.opening? (Text.trim line) with
      | none => exact ih (number + 1) none
      | some delimiter => exact ih (number + 1) _
    | some o =>
      rw [scanLines, scanLines, openBehind]
      split
      next =>
        rw [ih (number + 1) none]
        rfl
      next => exact ih (number + 1) _

/-- What a scan leaves open is the literal that is open behind all lines, by induction on them. -/
theorem unterminated_scanLines (m : Marker) (number : Nat) (o : Option Opened)
    (ls : List (List Char))
    : (m.scanLines number o ls).unterminated = (m.openBehind number o ls).map Opened.abandon := by
  induction ls generalizing number o with
  | nil => cases o <;> rfl
  | cons line rest ih =>
    cases o with
    | none =>
      rw [scanLines, openBehind]
      cases m.opening? (Text.trim line) with
      | none => exact ih (number + 1) none
      | some delimiter => exact ih (number + 1) _
    | some o =>
      rw [scanLines, openBehind]
      split
      next => exact ih (number + 1) none
      next => exact ih (number + 1) _

/-- Lines that are numbered otherwise hold the same, by induction on them. -/
theorem scanLines_moved (m : Marker) (count number : Nat) (o : Option Opened)
    (ls : List (List Char))
    : m.scanLines (number + count) (o.map (Opened.moved count)) ls
      = (m.scanLines number o ls).moved count := by
  induction ls generalizing number o with
  | nil => cases o <;> rfl
  | cons line rest ih =>
    have counted : number + count + 1 = number + 1 + count := Nat.add_right_comm number count 1
    cases o with
    | none =>
      rw [Option.map_none, scanLines, scanLines, counted]
      cases m.opening? (Text.trim line) with
      | none => exact ih (number + 1) none
      | some delimiter => exact ih (number + 1) (some { line := number, delimiter := delimiter })
    | some o =>
      have delimiter : (o.moved count).delimiter = o.delimiter := rfl
      rw [Option.map_some, scanLines, scanLines, counted, delimiter]
      split
      next =>
        rw [← Option.map_none, ih (number + 1) none]
        rfl
      next => exact ih (number + 1) (some (o.push line))

/-- The literal that is open comes first in what is found from there on, by induction on the lines
that it may still take.
-/
theorem first?_scanLines (m : Marker) (number : Nat) (o : Opened) (ls : List (List Char))
    : (m.scanLines number (some o) ls).first? = some o.abandon := by
  induction ls generalizing number o with
  | nil => rfl
  | cons line rest ih =>
    rw [scanLines]
    split
    next => rfl
    next => exact ih (number + 1) (o.push line)

/-- The scan of a text with another one behind it, where the first ends with a line feed or is
empty. If the first leaves no literal open, what is found in the second follows, moved behind the
lines of the first. If it leaves one open, its closed literals stay as they are, and the one left
open comes next, closed by the second text or left open by it too.
-/
theorem scan_append (m : Marker) (a b : String)
    (ended : a.toList = [] ∨ a.toList.getLast? = some '\n')
    : ((m.scan a).isClean = true →
          m.scan (a ++ b)
          = (m.scan a).thenFinds ((m.scan b).moved (Text.lines a.toList).length))
      ∧ ∀ u, (m.scan a).unterminated = some u →
          (m.scan a).literals <+: (m.scan (a ++ b)).literals
          ∧ ((m.scan (a ++ b)).behind (m.scan a).literals.length).first? = some u := by
  have whole : m.scan (a ++ b)
      = (m.scan a).thenFinds
          (m.scanLines (1 + (Text.lines a.toList).length)
            (m.openBehind 1 none (Text.lines a.toList)) (Text.lines b.toList)) := by
    rw [scan, String.toList_append, Text.lines_append ended, scanLines_append]
    rfl
  have left : (m.scan a).unterminated
      = (m.openBehind 1 none (Text.lines a.toList)).map Opened.abandon :=
    m.unterminated_scanLines 1 none (Text.lines a.toList)
  constructor
  · intro clean
    rw [Scan.isClean, left, Option.isNone_map, Option.isNone_iff_eq_none] at clean
    rw [whole, clean]
    exact congrArg _ (m.scanLines_moved _ 1 none (Text.lines b.toList))
  · intro u isOpen
    obtain ⟨o, known, rfl⟩ := Option.map_eq_some_iff.mp (left.symm.trans isOpen)
    rw [whole, Scan.behind_thenFinds, known]
    exact ⟨List.prefix_append _ _, m.first?_scanLines _ o _⟩

/-- A text that leaves a literal open behind a closed one. -/
def openedText : String := "R\"(\nx\n)\";\nR\"a(\ny\n"

/-- A text that closes that literal, and holds none by itself but for one that it leaves open. -/
def closingText : String := ")a\";\nR\"b(\n"

/-- The literal left open in the first text comes next where the second stands behind it. Where the
first text stands behind a clean one, its literals are moved by one line.
-/
theorem scan_append_opened
    : openedText.toList.getLast? = some '\n'
      ∧ (({} : Marker).scan openedText).unterminated = some ⟨4, "a"⟩
      ∧ ((({} : Marker).scan (openedText ++ closingText)).behind 1).first? = some ⟨4, "a"⟩
      ∧ ({} : Marker).scan ("\n" ++ openedText)
        = { literals := [⟨"", 2, "x\n"⟩], unterminated := some ⟨5, "a"⟩ } := by
  have ended : openedText.toList.getLast? = some '\n' := by decide +kernel
  have isOpen : (({} : Marker).scan openedText).unterminated = some ⟨4, "a"⟩ := by
    decide +kernel
  refine ⟨ended, isOpen, ?_, ?_⟩
  · exact ((scan_append {} openedText closingText (.inr ended)).2 _ isOpen).2
  · rw [(scan_append {} "\n" openedText (.inr rfl)).1 (by decide +kernel)]
    decide +kernel

end Marker

end Casebook
