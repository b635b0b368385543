import Casebook.Json
import Casebook.Toml.Text

/-! Reading JSON. Values are read from left to right, with any blanks between their tokens. A number
is read where it is a natural number, and an escape by number where it stands for one character.
-/

namespace Casebook.Json

/-- A character that may stand between two tokens. -/
def isBlank (c : Char) : Bool :=
  c = ' ' || c = '\t' || c = '\n' || c = '\r'

/-- What follows the blanks that a text begins with. -/
def skipBlanks (text : List Char) : List Char :=
  text.dropWhile isBlank

/-- The character that a letter stands for behind a backslash. -/
def escapedBy? : Char → Option Char
  | '"' => some '"'
  | '\\' => some '\\'
  | '/' => some '/'
  | 'b' => some '\x08'
  | 'f' => some '\x0c'
  | 'n' => some '\n'
  | 'r' => some '\r'
  | 't' => some '\t'
  | _ => none

/-- Reads up to the quote that ends a string. No control stands in a string but behind an escape. -/
def readString : List Char → Option (List Char × List Char)
  | [] => none
  | '"' :: rest => some ([], rest)
  | '\\' :: 'u' :: a :: b :: c :: d :: rest =>
    (Toml.ofHexDigits? [a, b, c, d]).bind fun read =>
      (readString rest).map (Prod.map (read :: ·) id)
  | '\\' :: letter :: rest =>
    (escapedBy? letter).bind fun read => (readString rest).map (Prod.map (read :: ·) id)
  | c :: rest => if c.toNat < 0x20 then none else (readString rest).map (Prod.map (c :: ·) id)

/-- Reads a natural number, which has no zeros in front. -/
def readNumber (text : List Char) : Option (Nat × List Char) :=
  let digits := text.takeWhile Char.isDigit
  if digits.isEmpty || digits.head? = some '0' && digits ≠ ['0'] then none
  else some (Nat.ofDigitChars 10 digits 0, text.drop digits.length)

/-- Reads things with commas between them, and the character that ends them. There is at least one
of them and there are at most `fuel`.
-/
def readSeparated {α : Type} (read : List Char → Option (α × List Char)) (close : Char)
    : Nat → List Char → Option (List α × List Char)
  | 0, _ => none
  | fuel + 1, text => do
    let (first, rest) ← read text
    match skipBlanks rest with
    | [] => none
    | c :: rest =>
      if c = close then some ([first], rest)
      else if c = ',' then
        let (more, rest) ← readSeparated read close fuel (skipBlanks rest)
        some (first :: more, rest)
      else none

/-- Reads the key of a field and the value behind the colon. -/
def readField (readValue : List Char → Option (Json × List Char))
    : List Char → Option ((String × Json) × List Char)
  | '"' :: text => do
    let (key, rest) ← readString text
    match skipBlanks rest with
    | ':' :: rest =>
      let (value, rest) ← readValue (skipBlanks rest)
      some ((String.ofList key, value), rest)
    | _ => none
  | _ => none

/-- Reads a value in which arrays and objects are nested at most so deep. -/
def readWithin : Nat → List Char → Option (Json × List Char)
  | _, [] => none
  | 0, '[' :: _ => none
  | 0, '\x7b' :: _ => none
  | depth + 1, '[' :: rest =>
    match skipBlanks rest with
    | ']' :: rest => some (.array [], rest)
    | rest => do
      let (items, rest) ← readSeparated (readWithin depth) ']' rest.length rest
      some (.array items, rest)
  | depth + 1, '\x7b' :: rest =>
    match skipBlanks rest with
    | '\x7d' :: rest => some (.object [], rest)
    | rest => do
      let (fields, rest) ← readSeparated (readField (readWithin depth)) '\x7d' rest.length rest
      some (.object fields, rest)
  | _, '"' :: rest => do
    let (text, rest) ← readString rest
    some (.string (String.ofList text), rest)
  | _, 'n' :: 'u' :: 'l' :: 'l' :: rest => some (.null, rest)
  | _, 't' :: 'r' :: 'u' :: 'e' :: rest => some (.bool true, rest)
  | _, 'f' :: 'a' :: 'l' :: 's' :: 'e' :: rest => some (.bool false, rest)
  | _, text => (readNumber text).map fun (n, rest) => (.number n, rest)

/-- How deep arrays and objects may be nested. -/
def maxDepth : Nat := 128

/-- Reads the values of a text, of which there are fewer than `fuel`. There is a blank between any
two, or the end of the text behind the last.
-/
def readAll : Nat → List Char → Option (List Json)
  | 0, _ => none
  | fuel + 1, text =>
    match skipBlanks text with
    | [] => some []
    | text => do
      let (first, rest) ← readWithin maxDepth text
      if rest.head?.all isBlank then
        let more ← readAll fuel rest
        some (first :: more)
      else none

/-- The values that a text is a sequence of. -/
def valuesOf? (text : String) : Option (List Json) :=
  readAll (text.toList.length + 1) text.toList

/-- The value that a text is the form of. -/
def ofText? (text : String) : Option Json :=
  match valuesOf? text with
  | some [value] => some value
  | _ => none

-----------------------------------------------------------------------------------------
-- Parts of a value
-----------------------------------------------------------------------------------------

/-- The value of a field of an object. -/
def field? (key : String) : Json → Option Json
  | object fields => fields.lookup key
  | _ => none

@[simp]
theorem field?_object_nil (key : String)
    : field? key (.object []) = none :=
  rfl

@[simp]
theorem field?_object_cons (key other : String) (value : Json) (fields : List (String × Json))
    : field? key (.object ((other, value) :: fields))
      = if key = other then some value else field? key (.object fields) := by
  rw [field?, List.lookup_cons]
  by_cases same : key = other
  · simp [same]
  · rw [beq_false_of_ne same, if_neg same]
    rfl

/-- The text that a value is. -/
def text? : Json → Option String
  | string text => some text
  | _ => none

/-- The number that a value is. -/
def number? : Json → Option Nat
  | number value => some value
  | _ => none

/-- The truth value that a value is. -/
def bool? : Json → Option Bool
  | bool value => some value
  | _ => none

/-- The things that the items of an array are read as. -/
def items? {α : Type} (read : Json → Option α) : Json → Option (List α)
  | array items => items.mapM read
  | _ => none

/-- The keys of an object with the things that their values are read as. -/
def entries? {α : Type} (read : Json → Option α) : Json → Option (List (String × α))
  | object fields => fields.mapM fun (key, value) => (read value).map (key, ·)
  | _ => none

example : ofText? " \x7b\"a\": [1, \"\\u0041\\n\", []],\n\"b\": null \x7d "
    = some (.object [("a", .array [.number 1, .string "A\n", .array []]), ("b", .null)]) := by
  cbv

end Casebook.Json
