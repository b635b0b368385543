import Casebook.Pattern.Expr.Normal
import Casebook.Pattern.Search
import Casebook.Proofs.Unicode.CodeSet

/-! Where the ways of simple expressions lead. A text leads to one place, a set to one place behind
one of its characters, and a greedy repetition of a set as far as its characters reach.
-/

namespace Casebook.Pattern

open Unicode (CodeSet)

namespace Way

@[simp] theorem pass_left (w : Way) (c : Char) (left : List Char)
    : (w.pass c left).left = left := rfl

@[simp] theorem pass_groups (w : Way) (c : Char) (left : List Char)
    : (w.pass c left).groups = w.groups := rfl

theorem readOne_nil {test : Char → Bool} {w : Way} (left : w.left = [])
    : w.readOne test = [] := by
  rw [readOne, left]

theorem readOne_cons {test : Char → Bool} {w : Way} {c : Char} {rest : List Char}
    (left : w.left = c :: rest)
    : w.readOne test = if test c then [w.pass c rest] else [] := by
  rw [readOne, left]

/-- A text leads behind itself, whatever is left there, by induction on the text. -/
theorem readAll_append {text rest : List Char} {w : Way} (left : w.left = text ++ rest)
    : ∃ before,
        w.readAll text = [{ before := before, left := rest, groups := w.groups }] := by
  induction text generalizing w with
  | nil => exact ⟨w.before, congrArg (fun left => [Way.mk w.before left w.groups]) left⟩
  | cons c text ih =>
    rw [readAll, readOne_cons left, if_pos (decide_eq_true rfl), List.flatMap_singleton]
    exact ih (pass_left w c _)

/-- A text leads nowhere from where it does not stand, by induction on the text. -/
theorem readAll_of_not_prefix {text : List Char} {w : Way} (stands : ¬ text <+: w.left)
    : w.readAll text = [] := by
  induction text generalizing w with
  | nil => exact absurd List.nil_prefix stands
  | cons c text ih =>
    rw [readAll]
    cases left : w.left with
    | nil => rw [readOne_nil left, List.flatMap_nil]
    | cons next rest =>
      rw [readOne_cons left]
      by_cases same : next = c
      · rw [if_pos (decide_eq_true same), List.flatMap_singleton]
        refine ih fun behind => stands ?_
        rw [left, same]
        exact (List.prefix_cons_inj c).mpr behind
      · rw [if_neg (by simpa using same), List.flatMap_nil]

end Way

variable {step : Way → List Way} {test : Char → Bool}

/-- A repetition of characters stays where no character passes the test. -/
theorem stepsAfter_of_stopped (reads : ∀ w, step w = w.readOne test) {greedy : Bool} {count : Nat}
    {w : Way} (stopped : w.readOne test = [])
    : stepsAfter step greedy count w = [w] := by
  cases count with
  | zero => rfl
  | succ count => cases greedy <;> simp [stepsAfter, Way.orStay, reads, stopped]

/-- A greedy repetition of characters goes on behind one that passes the test. -/
theorem stepsAfter_of_passed (reads : ∀ w, step w = w.readOne test) {count : Nat} {w : Way}
    {c : Char} {rest : List Char} (left : w.left = c :: rest) (passed : test c = true)
    : stepsAfter step true (count + 1) w = stepsAfter step true count (w.pass c rest) ++ [w] := by
  simp [stepsAfter, Way.orStay, reads, Way.readOne_cons left, left, passed]

/-- A greedy repetition of characters that are not `stop` leads to a last character `stop` along one
way at most, by induction on what is left: the way that stays in front of any other character does
not, and no way goes past `stop`.
-/
theorem stepsAfter_readOne {stop : Char} {count : Nat} {w : Way}
    (reads : ∀ w, step w = w.readOne test) (tests : ∀ c, test c = true ↔ c ≠ stop)
    (enough : w.left.length ≤ count)
    : ((stepsAfter step true count w).flatMap fun after =>
          if after.left = [stop] then [after.groups] else [])
        = if w.left.getLast? = some stop ∧ stop ∉ w.left.dropLast then [w.groups] else [] := by
  induction count generalizing w with
  | zero =>
    have left : w.left = [] := List.eq_nil_of_length_eq_zero (Nat.le_zero.mp enough)
    simp [stepsAfter, left]
  | succ count ih =>
    cases left : w.left with
    | nil => simp [stepsAfter_of_stopped reads (Way.readOne_nil left), left]
    | cons c rest =>
      by_cases same : c = stop
      · have stopped : w.readOne test = [] := by
          rw [Way.readOne_cons left, if_neg fun passed => (tests c).mp passed same]
        have alone : (c :: rest).getLast? = some stop ∧ stop ∉ (c :: rest).dropLast ↔ rest = [] := by
          cases rest <;> simp [same]
        rw [if_congr alone rfl rfl, stepsAfter_of_stopped reads stopped]
        simp [left, same]
      · have shorter : (w.pass c rest).left.length ≤ count := by
          rw [left, List.length_cons] at enough
          exact Nat.le_of_succ_le_succ enough
        have behind : (c :: rest).getLast? = some stop ∧ stop ∉ (c :: rest).dropLast
            ↔ rest.getLast? = some stop ∧ stop ∉ rest.dropLast := by
          cases rest with
          | nil => simp [same]
          | cons next rest => simp [Ne.symm same]
        rw [stepsAfter_of_passed reads left ((tests c).mpr same), List.flatMap_append, ih shorter]
        simp only [List.flatMap_singleton, left, List.cons.injEq, same, false_and, if_false,
          List.append_nil, Way.pass_left, Way.pass_groups]
        exact if_congr behind.symm rfl rfl

/-- One step or more, or no step at all, are any number of steps where steps read something. -/
theorem orStay_stepsFrom (reads : ∀ w, step w = w.readOne test) (w : Way)
    : w.orStay true (stepsFrom step true w) = stepsAfter step true w.left.length w := by
  cases left : w.left with
  | nil =>
    rw [stepsAfter_of_stopped reads (Way.readOne_nil left), stepsFrom, reads, Way.readOne_nil left]
    rfl
  | cons c rest =>
    by_cases passed : test c = true
    · rw [List.length_cons, stepsAfter_of_passed reads left passed]
      simp [stepsFrom, Way.orStay, reads, Way.readOne_cons left, left, passed]
    · have stopped : w.readOne test = [] := by rw [Way.readOne_cons left, if_neg passed]
      rw [stepsAfter_of_stopped reads stopped, stepsFrom, reads, stopped]
      rfl

namespace Expr

/-- The expression for a set reads any one character of the set. -/
theorem ways_ofSet {s : CodeSet} (proper : s.Proper) (w : Way)
    : (ofSet s).ways w = w.readOne fun c => s.contains c.toNat := by
  have held : (fun c : Char => (s.minus Unicode.Category.surrogate).contains c.toNat)
      = fun c => s.contains c.toNat :=
    funext (CodeSet.contains_minus_surrogate proper)
  unfold ofSet
  dsimp only
  split
  next low high single =>
    split
    next same =>
      subst high
      rw [← held]
      have properly := CodeSet.proper_minus proper CodeSet.proper_surrogate (low, low)
        (single ▸ List.mem_singleton_self _)
      have holds (code : Nat)
          : (s.minus Unicode.Category.surrogate).contains code = decide (code = low) := by
        rw [CodeSet.contains, single, Bool.eq_iff_iff]
        simp only [List.any_cons, List.any_nil, Bool.or_false, Bool.and_eq_true, decide_eq_true_eq]
        omega
      have valid : low.isValidChar :=
        CodeSet.isValidChar_of_contains_minus proper properly.2
          ((holds low).trans (decide_eq_true rfl))
      have number : (Char.ofNat low).toNat = low := by
        rw [Char.ofNat, dif_pos valid]
        rfl
      have same (c : Char) : decide (c = Char.ofNat low) = decide (c.toNat = low) := by
        rw [decide_eq_decide, ← Char.toNat_inj, number]
      simp only [holds, ways, Way.readAll, same, List.flatMap_singleton']
    next => exact congrArg w.readOne held
  next => exact congrArg w.readOne held

theorem isEmptyOnly_ofSet (s : CodeSet)
    : (ofSet s).isEmptyOnly = false := by
  unfold ofSet
  dsimp only
  split
  · split <;> rfl
  · rfl

/-- A set may be repeated as it is, since it does not match the empty text. -/
theorem repeated_ofSet (s : CodeSet)
    : (ofSet s).repeated 0 none true = rep (ofSet s) 0 none true := by
  simp [repeated, isEmptyOnly_ofSet]

end Expr

end Casebook.Pattern
