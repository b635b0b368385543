import Casebook.Text.Quoted

/-! JSON values and their two written forms. The fields of an object keep the order in which they
are given.
-/

namespace Casebook

/-- A JSON value whose numbers are natural numbers. -/
inductive Json where
  | null
  | bool (value : Bool)
  | number (value : Nat)
  | string (text : String)
  | array (items : List Json)
  | object (fields : List (String × Json))
deriving Repr, Inhabited

namespace Json

/-- The form of a character in a string. Quotes, backslashes and controls are escaped, the
controls that have a letter by that letter.
-/
def escapedChar (c : Char) : List Char :=
  if c = '"' ∨ c = '\\' then ['\\', c]
  else if c = '\x08' then ['\\', 'b']
  else if c = '\x0c' then ['\\', 'f']
  else if c = '\n' then ['\\', 'n']
  else if c = '\r' then ['\\', 'r']
  else if c = '\t' then ['\\', 't']
  else if c.toNat < 0x10 then ['\\', 'u', '0', '0', '0'] ++ Text.hexDigits c.toNat
  else if c.toNat < 0x20 then ['\\', 'u', '0', '0'] ++ Text.hexDigits c.toNat
  else [c]

/-- The written form of a string. -/
def quoted (text : String) : List Char :=
  '"' :: text.toList.flatMap escapedChar ++ ['"']

mutual
/-- The form without any blanks between tokens. -/
def compact : Json → List Char
  | null => "null".toList
  | bool value => (if value then "true" else "false").toList
  | number value => (toString value).toList
  | string text => quoted text
  | array items => '[' :: compactItems items ++ [']']
  | object fields => '\x7b' :: compactFields fields ++ ['\x7d']

/-- Items with a comma between any two. -/
def compactItems : List Json → List Char
  | [] => []
  | [item] => item.compact
  | item :: rest => item.compact ++ ',' :: compactItems rest

/-- Fields with a comma between any two. -/
def compactFields : List (String × Json) → List Char
  | [] => []
  | [(key, value)] => quoted key ++ ':' :: value.compact
  | (key, value) :: rest => quoted key ++ ':' :: value.compact ++ ',' :: compactFields rest
end

/-- The start of a new line at a depth, two blanks for each level. -/
def newLine (depth : Nat) : List Char :=
  '\n' :: List.replicate (2 * depth) ' '

mutual
/-- The form with one item or field on a line, at a depth. -/
def prettyAt (depth : Nat) : Json → List Char
  | null => "null".toList
  | bool value => (if value then "true" else "false").toList
  | number value => (toString value).toList
  | string text => quoted text
  | array [] => ['[', ']']
  | array items =>
    '[' :: newLine (depth + 1) ++ prettyItems (depth + 1) items ++ newLine depth ++ [']']
  | object [] => ['\x7b', '\x7d']
  | object fields =>
    '\x7b' :: newLine (depth + 1) ++ prettyFields (depth + 1) fields ++ newLine depth ++ ['\x7d']

/-- Items on lines of their own, with a comma after each but the last. -/
def prettyItems (depth : Nat) : List Json → List Char
  | [] => []
  | [item] => item.prettyAt depth
  | item :: rest => item.prettyAt depth ++ ',' :: newLine depth ++ prettyItems depth rest

/-- Fields on lines of their own, with a comma after each but the last. -/
def prettyFields (depth : Nat) : List (String × Json) → List Char
  | [] => []
  | [(key, value)] => quoted key ++ ':' :: ' ' :: value.prettyAt depth
  | (key, value) :: rest =>
    quoted key ++ ':' :: ' ' :: value.prettyAt depth ++ ',' :: newLine depth
      ++ prettyFields depth rest
end

/-- The form on one line. -/
def render (j : Json) : String :=
  String.ofList j.compact

/-- The form for people, over several lines. -/
def renderPretty (j : Json) : String :=
  String.ofList (j.prettyAt 0)

end Json

end Casebook
