import Mathlib.Tactic.IntervalCases
import Casebook.Timestamp

/-! Days and dates. Each day has one date of the calendar, and the date stands for that day. The
calendar repeats after 400 years, an era, which is cut into centuries, spans of four years and years
that begin in March; a leap day is the last of its year.
-/

namespace Casebook.Timestamp

/-- A day of an era: the century, the span of four years in it, the year of the span and the day of
the year, each counted from zero.
-/
structure DayOfEra where
  century : Nat
  span : Nat
  year : Nat
  day : Nat

namespace DayOfEra

/-- The number of the day in its era. -/
def number (d : DayOfEra) : Nat :=
  36524 * d.century + 1461 * d.span + 365 * d.year + d.day

/-- The number of the day's year in its era. -/
def yearOfEra (d : DayOfEra) : Nat :=
  100 * d.century + 4 * d.span + d.year

variable {d : DayOfEra}

end DayOfEra

variable {year : Int} {month day : Nat}

/-- The day lies in the years that have dates. -/
def InYears (days : Int) : Prop :=
  daysOfDate firstYear 1 1 ≤ days ∧ days < daysOfDate (lastYear + 1) 1 1

instance (days : Int) : Decidable (InYears days) :=
  inferInstanceAs (Decidable (_ ∧ _))

end Casebook.Timestamp
