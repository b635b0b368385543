import Casebook.Pattern.Flags
import Casebook.Unicode.Age
import Casebook.Unicode.Break
import Casebook.Unicode.CaseMap
import Casebook.Unicode.Script.Shared

/-! Named classes of characters: the one-letter classes, the bracketed ASCII classes and the
properties of the character standard.
-/

namespace Casebook.Pattern

open Unicode (CodeSet)

/-- A set with all that differs from what it holds in case only, where flags ask for any case. -/
def Flags.inAnyCase (f : Flags) (set : CodeSet) : CodeSet :=
  if !f.ignoreCase then set
  else if f.unicode then set.inAnyCase Unicode.foldingRuns
  else set.inAnyCase Unicode.asciiFoldingRuns

/-- A set that is read in the scope of flags: in any case if they say so, then turned around if
it is negated. Without Unicode a set must not reach beyond ASCII, where it would hold parts of
characters.
-/
def settle (f : Flags) (negated : Bool) (set : CodeSet) : Except Fault CodeSet :=
  let cased := f.inAnyCase set
  let settled := if negated then cased.complement else cased
  if !f.unicode && !settled.isAscii then .error .notText else .ok settled

/-- The class that a letter after a backslash names, where a capital letter negates it. -/
def letterClass (f : Flags) (letter : Char) : Except Fault CodeSet :=
  let set : CodeSet :=
    match f.unicode, letter.toLower with
    | true, 'd' => Unicode.Category.decimalNumber
    | true, 's' => Unicode.Property.whiteSpace
    | true, _ => Unicode.Property.word
    | false, 'd' => .ofText "30-39"
    | false, 's' => .ofText "9-D 20"
    | false, _ => .ofText "30-39 41-5A 5F 61-7A"
  settle { f with ignoreCase := false } letter.isUpper set

/-- The ASCII class with a name. -/
def asciiClass? (name : String) : Option CodeSet :=
  match name with
  | "alnum" => some (.ofText "30-39 41-5A 61-7A")
  | "alpha" => some (.ofText "41-5A 61-7A")
  | "ascii" => some (.ofText "0-7F")
  | "blank" => some (.ofText "9 20")
  | "cntrl" => some (.ofText "0-1F 7F")
  | "digit" => some (.ofText "30-39")
  | "graph" => some (.ofText "21-7E")
  | "lower" => some (.ofText "61-7A")
  | "print" => some (.ofText "20-7E")
  | "punct" => some (.ofText "21-2F 3A-40 5B-60 7B-7E")
  | "space" => some (.ofText "9-D 20")
  | "upper" => some (.ofText "41-5A")
  | "word" => some (.ofText "30-39 41-5A 5F 61-7A")
  | "xdigit" => some (.ofText "30-39 41-46 61-66")
  | _ => none

/-- A name with all that does not tell names apart left out: case, blanks, hyphens, underscores,
characters beyond ASCII and the word `is` in front.
-/
def plainName (name : List Char) : List Char :=
  let startsWithIs := (name.take 2).map Char.toLower = ['i', 's']
  let rest := if startsWithIs then name.drop 2 else name
  let plain :=
    (rest.filter fun c => c.toNat < 0x80 && c ≠ ' ' && c ≠ '_' && c ≠ '-').map Char.toLower
  if startsWithIs && plain = ['c'] then ['i', 's', 'c'] else plain

/-- The set that a table of names gives a name to. -/
def named? (table : List (List String × CodeSet)) (name : String) : Option CodeSet :=
  (table.find? fun row => row.1.contains name).map (·.2)

/-- The general category with a plain name, or one of the three sets that are named like one. -/
def categoryNamed? (name : String) : Option CodeSet :=
  match name with
  | "any" => some .everything
  | "ascii" => some (.ofText "0-7F")
  | "assigned" => some Unicode.Category.assigned
  | _ => named? Unicode.Category.named name

/-- The set that a name alone stands for: a property, else a general category, else a script.
Three category names are never taken for the property with the same short name.
-/
def propertyNamed? (name : List Char) : Option CodeSet :=
  let name := String.ofList (plainName name)
  let property :=
    if ["cf", "sc", "lc"].contains name then none else named? Unicode.Property.named name
  property.orElse fun _ =>
    (categoryNamed? name).orElse fun _ => named? Unicode.Script.named name

/-- The set of the characters for which a property has a value. -/
def propertyValue? (property value : List Char) : Option CodeSet :=
  let value := String.ofList (plainName value)
  match String.ofList (plainName property) with
  | "gc" | "generalcategory" => categoryNamed? value
  | "sc" | "script" => named? Unicode.Script.named value
  | "scx" | "scriptextensions" => Unicode.Script.extensionNamed? value
  | "age" => Unicode.Age.named? value
  | "gcb" | "graphemeclusterbreak" => named? Unicode.Break.graphemeNamed value
  | "wb" | "wordbreak" => named? Unicode.Break.wordNamed value
  | "sb" | "sentencebreak" => named? Unicode.Break.sentenceNamed value
  | _ => none

/-- A class of characters that have a property or lack it. -/
structure PropertyClass where
  codes : CodeSet
  negated : Bool

/-- The class that the text between the braces of a property class stands for. A value stands
behind an equals sign or a colon, or behind an exclamation mark and an equals sign, which negate
it.
-/
def propertyClass? (text : List Char) : Option PropertyClass :=
  match text.span (· ≠ '!') with
  | (name, '!' :: '=' :: value) =>
    (propertyValue? name value).map fun codes => { codes := codes, negated := true }
  | _ =>
    let separator := if text.contains ':' then ':' else '='
    let codes? :=
      if text.contains separator then
        let (name, value) := Text.cut separator text
        propertyValue? name value
      else propertyNamed? text
    codes?.map fun codes => { codes := codes, negated := false }

end Casebook.Pattern
