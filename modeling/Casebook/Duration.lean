/-! Lengths of time, in whole seconds and nanoseconds, and their two written forms: one short
for people, one exact.
-/

namespace Casebook

/-- A length of time. -/
structure Duration where
  seconds : Nat
  nanos : Nat
deriving DecidableEq, Repr, Inhabited

namespace Duration

/-- Nanoseconds in a second. -/
def nanosPerSecond : Nat := 1000000000

/-- A length of time from any number of nanoseconds, of which whole seconds are carried over. -/
def of (seconds nanos : Nat) : Duration where
  seconds := seconds + nanos / nanosPerSecond
  nanos := nanos % nanosPerSecond

/-- The form for people: minutes and seconds, or seconds, or milliseconds, all rounded down. -/
def short (d : Duration) : String :=
  if d.seconds ≥ 60 then s!"{d.seconds / 60}m {d.seconds % 60}s"
  else if d.seconds > 0 then s!"{d.seconds}s"
  else s!"{d.nanos / 1000000}ms"

/-- The digits of `part` parts of a unit that has `10 ^ places` of them, without zeros at the
end.
-/
def fraction (part places : Nat) : List Char :=
  let digits := (Nat.toDigits 10 (Nat.pow 10 places + part)).tail
  (digits.reverse.dropWhile (· = '0')).reverse

/-- A number of units and parts of a unit, with a point before the parts if there are any. -/
def decimal (whole part places : Nat) : String :=
  if part = 0 then toString whole
  else toString whole ++ "." ++ String.ofList (fraction part places)

/-- The exact form, in the largest unit that fits at least once. -/
def exact (d : Duration) : String :=
  if d.seconds > 0 then decimal d.seconds d.nanos 9 ++ "s"
  else if d.nanos ≥ 1000000 then decimal (d.nanos / 1000000) (d.nanos % 1000000) 6 ++ "ms"
  else if d.nanos ≥ 1000 then decimal (d.nanos / 1000) (d.nanos % 1000) 3 ++ "µs"
  else toString d.nanos ++ "ns"

end Duration

end Casebook
