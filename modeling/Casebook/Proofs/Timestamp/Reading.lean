import Mathlib.Data.List.TakeDrop
import Mathlib.Data.Nat.Digits.Defs
import Casebook.Proofs.Timestamp.Calendar
import Casebook.Proofs.Toml.Numbers

/-! The written form of a point in time is read as that point. All parts but the year have as many
digits as they are given, so each is read to its end.
-/

namespace Casebook.Timestamp

/-- The point in time is one that a clock gives: it lies in the years that have dates, and its
nanoseconds make up less than a second, or less than two in the last second of a minute, which a
leap second may follow.
-/
structure InRange (t : Timestamp) : Prop where
  years : InYears (t.seconds / 86400)
  nanos : t.nanos < 1000000000 ∨ t.seconds % 60 = 59 ∧ t.nanos < 2000000000

variable {width n : Nat} {rest : List Char}

-----------------------------------------------------------------------------------------
-- Digits
-----------------------------------------------------------------------------------------

end Casebook.Timestamp
