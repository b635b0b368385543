import Casebook.Toml.Moment
import Casebook.Toml.Text

/-! Numbers of a document, and what begins as numbers do: dates and times. -/

namespace Casebook.Toml

/-- The digits of some kind that a text goes on with, and what follows them. Between any two
digits may stand one underscore.
-/
def moreDigits (isDigit : Char → Bool) : List Char → List Char × List Char
  | [] => ([], [])
  | '_' :: c :: rest =>
    if isDigit c then
      let (digits, rest) := moreDigits isDigit rest
      (c :: digits, rest)
    else ([], '_' :: c :: rest)
  | c :: rest =>
    if isDigit c then
      let (digits, rest) := moreDigits isDigit rest
      (c :: digits, rest)
    else ([], c :: rest)

/-- The digits that a text begins with, if it begins with one. -/
def digits? (isDigit : Char → Bool) : List Char → Option (List Char × List Char)
  | [] => none
  | c :: rest =>
    if isDigit c then
      let (digits, rest) := moreDigits isDigit rest
      some (c :: digits, rest)
    else none

/-- The digits of a decimal number. A zero in front stands alone. -/
def wholeDigits? : List Char → Option (List Char × List Char)
  | '0' :: rest => some (['0'], rest)
  | text => digits? Char.isDigit text

/-- The number that digits write in a base. -/
def ofDigits (base : Nat) (digits : List Char) : Nat :=
  digits.foldl (fun n c => n * base + (hexValue? c).getD 0) 0

/-- Whether a number begins with a minus sign, and what follows its sign. -/
def readSign : List Char → Bool × List Char
  | '-' :: rest => (true, rest)
  | '+' :: rest => (false, rest)
  | text => (false, text)

/-- A number with its sign. -/
def signed (negative : Bool) (n : Nat) : Int :=
  if negative then -(n : Int) else n

/-- The digits after a point, of which there is at least one; no digits where no point is. -/
def readFraction : List Char → Except Fault (List Char × List Char)
  | '.' :: rest =>
    match digits? Char.isDigit rest with
    | some read => .ok read
    | none => .error (.expected "a digit after the point")
  | text => .ok ([], text)

/-- The exponent, where there is one. -/
def readExponent : List Char → Except Fault (Option Int × List Char)
  | [] => .ok (none, [])
  | c :: rest =>
    if c = 'e' ∨ c = 'E' then
      let (negative, rest) := readSign rest
      match digits? Char.isDigit rest with
      | some (digits, rest) => .ok (some (signed negative (ofDigits 10 digits)), rest)
      | none => .error (.expected "an exponent")
    else .ok (none, c :: rest)

/-- The number `mantissa * 10 ^ exponent` is at least half a unit above the largest number of
double precision, which has 309 digits.
-/
def isHuge (mantissa : Nat) (exponent : Int) : Bool :=
  let size := (Nat.toDigits 10 mantissa).length + exponent
  if mantissa = 0 ∨ size < 309 then false
  else if 309 < size then true
  else
    (Nat.pow 2 1024 - Nat.pow 2 970) * Nat.pow 10 (-exponent).toNat
      ≤ mantissa * Nat.pow 10 exponent.toNat

/-- An integer in range, with what follows it. -/
def integerOf (n : Int) (rest : List Char) : Except Fault (Value × List Char) :=
  if isInteger n then .ok (.integer n, rest) else .error (.outOfRange (toString n))

/-- Reads the digits of an integer in another base than ten. -/
def readBased (base : Nat) (isDigit : Char → Bool) (text : List Char)
    : Except Fault (Value × List Char) :=
  match digits? isDigit text with
  | some (digits, rest) => integerOf (ofDigits base digits) rest
  | none => .error (.expected "a digit")

/-- Reads a decimal number. It is an integer if it has neither fraction nor exponent. A negative
number may be of any size, as it is then minus infinity.
-/
def readDecimal (text : List Char) : Except Fault (Value × List Char) := do
  let (negative, unsigned) := readSign text
  match wholeDigits? unsigned with
  | none =>
    match unsigned with
    | 'i' :: 'n' :: 'f' :: rest | 'n' :: 'a' :: 'n' :: rest =>
      .ok (.float (String.ofList (text.take (text.length - rest.length))), rest)
    | _ => .error (.expected "a number")
  | some (whole, rest) =>
    let (fraction, rest) ← readFraction rest
    let (exponent?, rest) ← readExponent rest
    if fraction.isEmpty && exponent?.isNone then
      integerOf (signed negative (ofDigits 10 whole)) rest
    else
      let written := String.ofList (text.take (text.length - rest.length))
      let exponent := exponent?.getD 0 - fraction.length
      if !negative && isHuge (ofDigits 10 (whole ++ fraction)) exponent then
        .error (.outOfRange written)
      else .ok (.float written, rest)

/-- Reads a value that begins with a digit, with a sign, or as infinity and the missing number
do.
-/
def readNumber (text : List Char) : Except Fault (Value × List Char) :=
  match afterMoment? text with
  | some read =>
    read.map fun rest =>
      (.dateTime (String.ofList (text.take (text.length - rest.length))), rest)
  | none =>
    match text with
    | '0' :: 'x' :: rest => readBased 16 (fun c => (hexValue? c).isSome) rest
    | '0' :: 'o' :: rest => readBased 8 (fun c => '0' ≤ c && c ≤ '7') rest
    | '0' :: 'b' :: rest => readBased 2 (fun c => c = '0' || c = '1') rest
    | text => readDecimal text

end Casebook.Toml
