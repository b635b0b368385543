import Casebook.Text.Blank

/-! Points in time, counted in seconds since the start of 1970 in UTC, and their written form as
date, time and offset.
-/

namespace Casebook

/-- A point in time. From `10 ^ 9` on the nanoseconds tell a leap second that follows. -/
structure Timestamp where
  seconds : Int
  nanos : Nat
deriving DecidableEq, Repr, Inhabited

namespace Timestamp

/-- The number of days from the start of 1970 to a date. Years are counted from March, so that
the leap day ends one.
-/
def daysOfDate (year : Int) (month day : Nat) : Int :=
  let y := if month ≤ 2 then year - 1 else year
  let monthFromMarch := (month + 9) % 12
  let dayOfYear := (153 * monthFromMarch + 2) / 5 + (day - 1)
  365 * y + Int.fdiv y 4 - Int.fdiv y 100 + Int.fdiv y 400 + (dayOfYear : Int) - 719468

/-- The date that is a number of days after the start of 1970, as year, month and day. -/
def dateOfDays (days : Int) : Int × Nat × Nat :=
  let shifted := days + 719468
  let era := Int.fdiv shifted 146097
  let dayOfEra := (shifted - era * 146097).toNat
  let yearOfEra :=
    (dayOfEra - dayOfEra / 1460 + dayOfEra / 36524 - dayOfEra / 146096) / 365
  let dayOfYear := dayOfEra - (365 * yearOfEra + yearOfEra / 4 - yearOfEra / 100)
  let monthFromMarch := (5 * dayOfYear + 2) / 153
  let day := dayOfYear - (153 * monthFromMarch + 2) / 5 + 1
  let month := if monthFromMarch < 10 then monthFromMarch + 3 else monthFromMarch - 9
  let year := era * 400 + (yearOfEra : Int) + (if month ≤ 2 then 1 else 0)
  (year, month, day)

/-- The digits of a number, with zeros in front to make up at least `width` of them. -/
def padded (width n : Nat) : String :=
  let digits := Nat.toDigits 10 n
  String.ofList (List.replicate (width - digits.length) '0' ++ digits)

/-- The written form of a year: four digits, or a sign and at least four. -/
def yearText (year : Int) : String :=
  if 0 ≤ year ∧ year ≤ 9999 then padded 4 year.toNat
  else (if year < 0 then "-" else "+") ++ padded 4 year.natAbs

/-- The fraction of a second in as few groups of three digits as hold it, after a point. -/
def fractionText (nanos : Nat) : String :=
  if nanos = 0 then ""
  else if nanos % 1000000 = 0 then "." ++ padded 3 (nanos / 1000000)
  else if nanos % 1000 = 0 then "." ++ padded 6 (nanos / 1000)
  else "." ++ padded 9 nanos

/-- Date and time in UTC, without an offset. -/
def dateTimeText (t : Timestamp) : String :=
  let days := Int.fdiv t.seconds 86400
  let secondOfDay := (t.seconds - days * 86400).toNat
  let (year, month, day) := dateOfDays days
  let leap := if t.nanos ≥ 1000000000 then 1 else 0
  yearText year ++ "-" ++ padded 2 month ++ "-" ++ padded 2 day ++ "T"
    ++ padded 2 (secondOfDay / 3600) ++ ":" ++ padded 2 (secondOfDay / 60 % 60) ++ ":"
    ++ padded 2 (secondOfDay % 60 + leap) ++ fractionText (t.nanos - leap * 1000000000)

/-- The form with the letter that stands for UTC. -/
def render (t : Timestamp) : String :=
  t.dateTimeText ++ "Z"

/-- The form with an offset of zero. -/
def renderWithOffset (t : Timestamp) : String :=
  t.dateTimeText ++ "+00:00"

/-- The number that some decimal digits write. -/
def decimal (digits : List Char) : Nat :=
  digits.foldl (fun n c => n * 10 + (c.toNat - '0'.toNat)) 0

/-- The number of days of a month. -/
def daysInMonth (year : Int) (month : Nat) : Nat :=
  if month = 2 then
    if year % 4 = 0 ∧ (year % 100 ≠ 0 ∨ year % 400 = 0) then 29 else 28
  else if month = 4 ∨ month = 6 ∨ month = 9 ∨ month = 11 then 30
  else 31

/-- The first year that has dates. -/
def firstYear : Int := -262143

/-- The last year that has dates. -/
def lastYear : Int := 262142

/-- Reads a number of at least one digit and at most `width`, behind any blanks. -/
def readNumber (width : Nat) (text : List Char) : Option (Nat × List Char) :=
  let text := Text.trimStart text
  let digits := (text.take width).takeWhile Char.isDigit
  if digits.isEmpty then none else some (decimal digits, text.drop digits.length)

/-- Reads a year, which has at most four digits, or a sign and any number of them. -/
def readYear (text : List Char) : Option (Int × List Char) := do
  let signed (sign : Int) (rest : List Char) : Option (Int × List Char) :=
    if rest.head?.any Char.isDigit then
      (readNumber rest.length rest).map fun (n, rest) => (sign * n, rest)
    else none
  match Text.trimStart text with
  | '-' :: rest => signed (-1) rest
  | '+' :: rest => signed 1 rest
  | text =>
    let (n, rest) ← readNumber 4 text
    some (n, rest)

/-- Reads a number of one or two digits behind a separator, with blanks before and behind it. -/
def readPart (separator : Char) (text : List Char) : Option (Nat × List Char) :=
  match Text.trimStart text with
  | c :: rest => if c = separator then readNumber 2 rest else none
  | [] => none

/-- Reads a fraction of a second, where there is one, to the nanosecond. -/
def readFraction (text : List Char) : Option (Nat × List Char) :=
  match text with
  | '.' :: rest =>
    let (digits, rest) := rest.span Char.isDigit
    if digits.isEmpty then none
    else some (decimal ((digits ++ List.replicate 9 '0').take 9), rest)
  | _ => some (0, text)

/-- Reads an offset from UTC, in seconds: a sign, two digits for the hours and two for the
minutes, with colons and blanks between these. The letter `Z` and the word `UTC` stand for no
offset.
-/
def readOffset (text : List Char) : Option (Int × List Char) := do
  if (text.take 3).map Char.toUpper = ['U', 'T', 'C'] then some (0, text.drop 3)
  else
    match text with
    | sign :: rest =>
      if sign = 'Z' ∨ sign = 'z' then some (0, rest)
      else if sign = '+' ∨ sign = '-' ∨ sign = '−' then
        let twoDigits (text : List Char) : Option (Nat × List Char) :=
          let digits := text.take 2
          if digits.length = 2 ∧ digits.all Char.isDigit then some (decimal digits, text.drop 2)
          else none
        let (hours, rest) ← twoDigits rest
        let (minutes, rest) ← twoDigits (rest.dropWhile fun c => c = ':' || Text.isBlank c)
        if hours ≤ 23 ∧ minutes ≤ 59 then
          let offset : Int := hours * 3600 + minutes * 60
          some (if sign = '+' then offset else -offset, rest)
        else none
      else none
    | [] => none

/-- Reads a date and time with an offset, where blanks may stand around the parts. The sixtieth
second of a minute is a leap second.
-/
def ofText? (text : String) : Option Timestamp := do
  let (year, rest) ← readYear text.toList
  let (month, rest) ← readPart '-' rest
  let (day, rest) ← readPart '-' rest
  let rest ←
    match rest with
    | c :: rest => if c = 'T' ∨ c = 't' ∨ c = ' ' then some rest else none
    | [] => none
  let (hour, rest) ← readNumber 2 rest
  let (minute, rest) ← readPart ':' rest
  let (second, rest) ← readPart ':' rest
  let (nanos, rest) ← readFraction rest
  let (offset, rest) ← readOffset (Text.trimStart rest)
  if Text.isAllBlank rest ∧ firstYear ≤ year ∧ year ≤ lastYear ∧ 1 ≤ month ∧ month ≤ 12
      ∧ 1 ≤ day ∧ day ≤ daysInMonth year month ∧ hour ≤ 23 ∧ minute ≤ 59 ∧ second ≤ 60 then
    let leap := if second = 60 then 1 else 0
    let seconds : Int :=
      daysOfDate year month day * 86400 + (hour * 3600 + minute * 60 + second - leap : Nat) - offset
    if daysOfDate firstYear 1 1 * 86400 ≤ seconds
        ∧ seconds < daysOfDate (lastYear + 1) 1 1 * 86400 then
      some { seconds := seconds, nanos := nanos + leap * 1000000000 }
    else none
  else none

end Timestamp

end Casebook
