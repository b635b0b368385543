import Casebook.Timestamp
import Casebook.Toml.Basic

/-! Dates and times of a document: a date, a time, or both, and then also with an offset from
UTC. Only how long they are is found out; what follows them is the answer.
-/

namespace Casebook.Toml

/-- The number that some decimal digits write, if they are as many as wanted. -/
def number? (width : Nat) (digits : List Char) : Option Nat :=
  if digits.length = width ∧ digits.all Char.isDigit then some (Timestamp.decimal digits)
  else none

/-- A number of a fixed width and within bounds that a text begins with, and what follows it. -/
def readPart? (width least most : Nat) (text : List Char) : Option (Nat × List Char) := do
  let n ← number? width (text.take width)
  if least ≤ n ∧ n ≤ most then some (n, text.drop width) else none

/-- What follows a character that a text begins with. -/
def after? (c : Char) : List Char → Option (List Char)
  | d :: rest => if d = c then some rest else none
  | [] => none

/-- What follows a date. -/
def afterDate? (text : List Char) : Option (List Char) := do
  let (year, text) ← readPart? 4 0 9999 text
  let text ← after? '-' text
  let (month, text) ← readPart? 2 1 12 text
  let text ← after? '-' text
  let (day, text) ← readPart? 2 1 31 text
  if day ≤ Timestamp.daysInMonth year month then some text else none

/-- What follows the fraction of a second, where there is one. -/
def afterFraction : List Char → List Char
  | '.' :: d :: rest => if d.isDigit then rest.dropWhile Char.isDigit else '.' :: d :: rest
  | text => text

/-- What follows a time of day, which may be a leap second. -/
def afterTime? (text : List Char) : Option (List Char) := do
  let (_, text) ← readPart? 2 0 23 text
  let text ← after? ':' text
  let (_, text) ← readPart? 2 0 59 text
  let text ← after? ':' text
  let (_, text) ← readPart? 2 0 60 text
  some (afterFraction text)

/-- What follows the offset from UTC, where there is one. -/
def afterOffset? : List Char → Option (List Char)
  | [] => some []
  | c :: rest =>
    if c = 'Z' ∨ c = 'z' then some rest
    else if c = '+' ∨ c = '-' then do
      let (_, text) ← readPart? 2 0 23 rest
      let text ← after? ':' text
      let (_, text) ← readPart? 2 0 59 text
      some text
    else some (c :: rest)

/-- The text begins as a date does, with four digits and a dash. -/
def startsDate (text : List Char) : Bool :=
  (number? 4 (text.take 4)).isSome && (text.drop 4).head? = some '-'

/-- The text begins as a time does, with two digits and a colon. -/
def startsTime (text : List Char) : Bool :=
  (number? 2 (text.take 2)).isSome && (text.drop 2).head? = some ':'

/-- What follows a date and the time after it, where there is one: a letter or a single space
stands between the two.
-/
def afterDateTime? (text : List Char) : Option (List Char) := do
  match ← afterDate? text with
  | between :: d :: rest =>
    if (between = 'T' ∨ between = 't' ∨ between = ' ') ∧ d.isDigit then
      afterOffset? (← afterTime? (d :: rest))
    else some (between :: d :: rest)
  | text => some text

/-- What follows a date or time that a text begins with, or nothing where it begins as neither
does.
-/
def afterMoment? (text : List Char) : Option (Except Fault (List Char)) :=
  if startsDate text then
    some ((afterDateTime? text).elim (.error (.expected "a date")) .ok)
  else if startsTime text then
    some ((afterTime? text).elim (.error (.expected "a time")) .ok)
  else none

end Casebook.Toml
