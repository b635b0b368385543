/-! Numbers of cases. A number is a machine word, so zero comes again behind the greatest. -/

namespace Casebook.CaseNumber

/-- How many numbers there are, which is as many as 64 bits tell apart. -/
def bound : Nat := 18446744073709551616

/-- The number behind a number. -/
def next (number : Nat) : Nat :=
  (number + 1) % bound

/-- The number in front of a number. -/
def previous (number : Nat) : Nat :=
  (number + (bound - 1)) % bound

/-- The number that comes so many places after the first one. -/
def after (first : Nat) : Nat → Nat
  | 0 => first
  | places + 1 => next (after first places)

end Casebook.CaseNumber
