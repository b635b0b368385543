import Casebook.Pattern.Class
import Casebook.Pattern.Expr

/-! Escapes, the parts of a pattern that begin with a backslash. -/

namespace Casebook.Pattern

/-- What an escape stands for: a character, a set of characters or a condition on a place. A
character is a byte if two digits in base sixteen give its number.
-/
inductive Escape where
  | char (c : Char) (isByte : Bool)
  | set (s : Unicode.CodeSet)
  | look (condition : Look)

/-- The characters that mean something by themselves, and themselves after a backslash. -/
def isMeta (c : Char) : Bool :=
  "\\.+*?()|[]\x7b\x7d^$#&-~".toList.contains c

/-- A text that a pattern reads as itself: a backslash stands before what means something. -/
def escape (text : List Char) : List Char :=
  text.flatMap fun c => if isMeta c then ['\\', c] else [c]

/-- The character is punctuation or a control of ASCII that a backslash leaves as it is. -/
def isEscapable (c : Char) : Bool :=
  isMeta c || (c.toNat < 0x80 && !c.isAlphanum && c ≠ '<' && c ≠ '>')

/-- The character with the number that some digits write, if all of them are digits in base
sixteen and there is such a character.
-/
def charOfHex? (digits : List Char) : Option Char :=
  if digits.isEmpty || digits.any fun c => (Unicode.CodeSet.hexDigit? c).isNone then none
  else
    let n := Unicode.CodeSet.hex digits
    if n.isValidChar then some (Char.ofNat n) else none

/-- Reads exactly `count` digits of a character's number. -/
def readDigits (f : Flags) : Nat → List Char → List Char → Except Fault (List Char × List Char)
  | 0, digits, rest => .ok (digits.reverse, rest)
  | _ + 1, _, [] => .error .unfinishedEscape
  | count + 1, digits, c :: rest =>
    if (Unicode.CodeSet.hexDigit? c).isNone then .error .hexEscape
    else readDigits f count (c :: digits) (f.skip rest)

/-- Reads a character's number, in braces or with as many digits as the letter before asks for.
-/
def readHex (f : Flags) (letter : Char) (text : List Char) : Except Fault (Escape × List Char) :=
  match f.skip text with
  | [] => .error .unfinishedEscape
  | '\x7b' :: rest =>
    match f.takeWhile (· ≠ '\x7d') (f.skip rest) with
    | (_, []) => .error .unfinishedEscape
    | (digits, _ :: rest) =>
      match charOfHex? digits with
      | some c => .ok (.char c false, f.skip rest)
      | none => .error .hexEscape
  | rest => do
    let count := if letter = 'x' then 2 else if letter = 'u' then 4 else 8
    let (digits, rest) ← readDigits f count [] rest
    match charOfHex? digits with
    | some c => .ok (.char c (letter = 'x'), rest)
    | none => .error .hexEscape

/-- Reads the name of a property class, one letter or a text in braces. -/
def readProperty (f : Flags) (negated : Bool) (text : List Char)
    : Except Fault (Escape × List Char) := do
  let (found, rest) ←
    match f.skip text with
    | [] => .error .unfinishedEscape
    | '\x7b' :: rest =>
      match f.takeWhile (· ≠ '\x7d') (f.skip rest) with
      | (_, []) => .error .unfinishedEscape
      | (name, _ :: rest) => .ok (propertyClass? name, rest)
    | '\\' :: _ => .error .unknownProperty
    | c :: rest =>
      let codes? := propertyNamed? [c]
      .ok (codes?.map fun codes => { codes := codes, negated := false }, f.skip rest)
  if !f.unicode then .error .unknownProperty
  match found with
  | none => .error .unknownProperty
  | some found =>
    let set ← settle f (negated != found.negated) found.codes
    .ok (.set set, rest)

/-- Reads what may stand in braces after the escape of a word's edge: a kind of edge. Braces that
hold something else are a count for the escape and are left to be read.
-/
def readEdge (f : Flags) (words : Words) (text : List Char) : Except Fault (Look × List Char) :=
  match text with
  | '\x7b' :: rest =>
    match f.skip rest with
    | [] => .error .count
    | c :: more =>
      let isEdgeChar (c : Char) : Bool := c.isAlpha || c = '-'
      if !isEdgeChar c then .ok (.wordEdge words, text)
      else
        match f.takeWhile isEdgeChar (c :: more) with
        | (name, '\x7d' :: rest) =>
          match String.ofList name with
          | "start" => .ok (.wordStart words, rest)
          | "end" => .ok (.wordEnd words, rest)
          | "start-half" => .ok (.noWordBefore words, rest)
          | "end-half" => .ok (.noWordAfter words, rest)
          | _ => .error .unknownEscape
        | _ => .error .unknownEscape
  | rest => .ok (.wordEdge words, rest)

/-- Reads what follows a backslash. -/
def Escape.read (f : Flags) : List Char → Except Fault (Escape × List Char)
  | [] => .error .unfinishedEscape
  | c :: rest =>
    let words : Words := if f.unicode then .unicode else .ascii
    if c.isDigit then .error .unsupported
    else if c = 'x' ∨ c = 'u' ∨ c = 'U' then readHex f c rest
    else if c = 'p' ∨ c = 'P' then readProperty f (c = 'P') rest
    else if "dswDSW".toList.contains c then do .ok (.set (← letterClass f c), rest)
    else if isEscapable c then .ok (.char c false, rest)
    else
      match c with
      | 'a' => .ok (.char '\x07' false, rest)
      | 'f' => .ok (.char '\x0c' false, rest)
      | 't' => .ok (.char '\t' false, rest)
      | 'n' => .ok (.char '\n' false, rest)
      | 'r' => .ok (.char '\r' false, rest)
      | 'v' => .ok (.char '\x0b' false, rest)
      | 'A' => .ok (.look .textStart, rest)
      | 'z' => .ok (.look .textEnd, rest)
      | 'b' => do
        let (edge, rest) ← readEdge f words rest
        .ok (.look edge, rest)
      | 'B' => .ok (.look (.noWordEdge words), rest)
      | '<' => .ok (.look (.wordStart words), rest)
      | '>' => .ok (.look (.wordEnd words), rest)
      | _ => .error .unknownEscape

end Casebook.Pattern
