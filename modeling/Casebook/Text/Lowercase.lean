import Casebook.Unicode.CaseMap
import Casebook.Unicode.Current

/-! Lowercase text. Every character has its full lowercase form, and a capital sigma takes the
final form exactly where it ends a word.
-/

namespace Casebook.Text

/-- The lowercase form of a character by itself. Only U+0130 has a form of two characters. -/
def lowercaseChar (c : Char) : List Char :=
  if c.toNat < 0x80 then [c.toLower]
  else if c = '\u0130' then ['i', '\u0307']
  else [Char.ofNat (Unicode.mapThrough Unicode.lowercaseRuns c.toNat)]

/-- The first character that is not passed over has a case. -/
def meetsCased (text : List Char) : Bool :=
  match text.dropWhile fun c => Unicode.Current.caseIgnorable.contains c.toNat with
  | [] => false
  | c :: _ => Unicode.Current.cased.contains c.toNat

/-- The lowercase form of `text`, which follows the characters of `before`, the nearest first.
A capital sigma ends a word when a cased character comes before it and none after it.
-/
def lowercaseAfter (before : List Char) : List Char → List Char
  | [] => []
  | c :: rest =>
    let form :=
      if c = 'Σ' then
        [if meetsCased before && !meetsCased rest then 'ς' else 'σ']
      else lowercaseChar c
    form ++ lowercaseAfter (c :: before) rest

/-- The lowercase form of a text. -/
def lowercase (text : List Char) : List Char :=
  lowercaseAfter [] text

end Casebook.Text
