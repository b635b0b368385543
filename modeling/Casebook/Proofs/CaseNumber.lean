import Casebook.CaseNumber

/-! Numbers of cases by their places. As long as no number is too great for a word, the number so
many places after another is their sum.
-/

namespace Casebook.CaseNumber

theorem next_eq {number : Nat} (fits : number + 1 < bound) : next number = number + 1 :=
  Nat.mod_eq_of_lt fits

/-- Places after a number add up, by induction on the later ones. -/
theorem after_add (first m n : Nat) : after first (m + n) = after (after first m) n := by
  induction n with
  | zero => rfl
  | succ n ih => exact congrArg next ih

/-- The places after the next number are the same numbers, one place on. -/
theorem after_next (first n : Nat) : after (next first) n = after first (n + 1) := by
  rw [Nat.add_comm, after_add]
  rfl

/-- Before numbers come round, places are added. By induction on the places. -/
theorem after_eq {first n : Nat} (fits : first + n < bound) : after first n = first + n := by
  induction n with
  | zero => rfl
  | succ n ih =>
    calc next (after first n)
      _ = next (first + n) := by rw [ih (by omega)]
      _ = first + n + 1 := next_eq fits

/-- Before numbers come round, no two places have one number. -/
theorem after_ne {first i j : Nat} (before : i < j) (fits : first + j < bound)
    : after first i ≠ after first j := by
  rw [after_eq fits, after_eq (by omega)]
  omega

end Casebook.CaseNumber
