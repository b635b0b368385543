import Casebook.Toml.Gap

/-! Strings of a document. There are four forms, with double or single quotes, on one line or
over several. Between double quotes a backslash begins an escape; between single quotes every
character stands for itself.
-/

namespace Casebook.Toml

/-- A text that was read, and what follows it. -/
abbrev Read := Except Fault (List Char × List Char)

namespace Read

/-- What is read with a character in front. -/
def cons (c : Char) (read : Read) : Read :=
  read.map fun (text, rest) => (c :: text, rest)

/-- What is read with the character of an escape in front, which has to stand for one. -/
def consEscaped (escaped : Option Char) (read : Read) : Read :=
  match escaped with
  | some c => read.cons c
  | none => .error (.expected "an escape")

end Read

/-- The character that a letter stands for behind a backslash. -/
def escapedBy? : Char → Option Char
  | 'b' => some '\x08'
  | 't' => some '\t'
  | 'n' => some '\n'
  | 'f' => some '\x0c'
  | 'r' => some '\r'
  | '"' => some '"'
  | '\\' => some '\\'
  | _ => none

/-- The value of a hexadecimal digit. -/
def hexValue? (c : Char) : Option Nat :=
  if c.isDigit then some (c.toNat - '0'.toNat)
  else if 'a' ≤ c ∧ c ≤ 'f' then some (c.toNat - 'a'.toNat + 10)
  else if 'A' ≤ c ∧ c ≤ 'F' then some (c.toNat - 'A'.toNat + 10)
  else none

/-- The character whose number some hexadecimal digits write. -/
def ofHexDigits? (digits : List Char) : Option Char := do
  let values ← digits.mapM hexValue?
  let code := values.foldl (fun n v => n * 16 + v) 0
  if code.isValidChar then some (Char.ofNat code) else none

/-- Reads up to the double quote that ends a string of one line. -/
def readBasic : List Char → Read
  | [] => .error (.expected "a closing quote")
  | '"' :: rest => .ok ([], rest)
  | '\\' :: 'u' :: a :: b :: c :: d :: rest =>
    (readBasic rest).consEscaped (ofHexDigits? [a, b, c, d])
  | '\\' :: 'U' :: a :: b :: c :: d :: e :: f :: g :: h :: rest =>
    (readBasic rest).consEscaped (ofHexDigits? [a, b, c, d, e, f, g, h])
  | '\\' :: c :: rest => (readBasic rest).consEscaped (escapedBy? c)
  | c :: rest => if isPlain c then (readBasic rest).cons c else .error (.expected "a closing quote")

/-- Reads up to the three double quotes that end a string of several lines; one or two more
before them belong to the string. A backslash at the end of a line takes away all spaces and line
ends that follow it, which is what `trimming` stands for.
-/
def readBasicLines (trimming : Bool) : List Char → Read
  | [] => .error (.expected "closing quotes")
  | '"' :: '"' :: '"' :: '"' :: '"' :: rest => .ok (['"', '"'], rest)
  | '"' :: '"' :: '"' :: '"' :: rest => .ok (['"'], rest)
  | '"' :: '"' :: '"' :: rest => .ok ([], rest)
  | '\r' :: '\n' :: rest =>
    if trimming then readBasicLines true rest else (readBasicLines false rest).cons '\n'
  | '\n' :: rest =>
    if trimming then readBasicLines true rest else (readBasicLines false rest).cons '\n'
  | '\\' :: 'u' :: a :: b :: c :: d :: rest =>
    (readBasicLines false rest).consEscaped (ofHexDigits? [a, b, c, d])
  | '\\' :: 'U' :: a :: b :: c :: d :: e :: f :: g :: h :: rest =>
    (readBasicLines false rest).consEscaped (ofHexDigits? [a, b, c, d, e, f, g, h])
  | '\\' :: c :: rest =>
    if (afterLineEnd? (skipSpaces (c :: rest))).isSome then readBasicLines true (c :: rest)
    else (readBasicLines false rest).consEscaped (escapedBy? c)
  | c :: rest =>
    if trimming && isSpace c then readBasicLines true rest
    else if isPlain c then (readBasicLines false rest).cons c
    else .error (.expected "closing quotes")

/-- Reads up to the single quote that ends a string of one line. -/
def readLiteral : List Char → Read
  | [] => .error (.expected "a closing quote")
  | '\'' :: rest => .ok ([], rest)
  | c :: rest =>
    if isPlain c then (readLiteral rest).cons c else .error (.expected "a closing quote")

/-- Reads up to the three single quotes that end a string of several lines; one or two more
before them belong to the string.
-/
def readLiteralLines : List Char → Read
  | [] => .error (.expected "closing quotes")
  | '\'' :: '\'' :: '\'' :: '\'' :: '\'' :: rest => .ok (['\'', '\''], rest)
  | '\'' :: '\'' :: '\'' :: '\'' :: rest => .ok (['\''], rest)
  | '\'' :: '\'' :: '\'' :: rest => .ok ([], rest)
  | '\r' :: '\n' :: rest => (readLiteralLines rest).cons '\n'
  | '\n' :: rest => (readLiteralLines rest).cons '\n'
  | c :: rest =>
    if isPlain c then (readLiteralLines rest).cons c else .error (.expected "closing quotes")

/-- Reads a string of any form. A line end right after three opening quotes is no part of it. -/
def readText : List Char → Read
  | '"' :: '"' :: '"' :: rest => readBasicLines false ((afterLineEnd? rest).getD rest)
  | '"' :: rest => readBasic rest
  | '\'' :: '\'' :: '\'' :: rest => readLiteralLines ((afterLineEnd? rest).getD rest)
  | '\'' :: rest => readLiteral rest
  | _ => .error (.expected "a string")

end Casebook.Toml
