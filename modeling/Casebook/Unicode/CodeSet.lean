import Casebook.Text.Split

/-! Sets of code points, each a list of ranges. The ranges need not be sorted or disjoint, so a
union is an append and membership asks for any range that holds the code point. The other
operations put the ranges in order first.
-/

namespace Casebook.Unicode

/-- A set of code points, given by ranges with both ends in the set. -/
structure CodeSet where
  ranges : List (Nat × Nat)
deriving Repr, DecidableEq, Inhabited

namespace CodeSet

/-- Some range of the set holds the code point. -/
def contains (s : CodeSet) (code : Nat) : Bool :=
  s.ranges.any fun (low, high) => low ≤ code && code ≤ high

/-- The union of two sets. -/
instance : Append CodeSet where
  append s t := ⟨s.ranges ++ t.ranges⟩

/-- The largest code point. -/
def maxCode : Nat := 0x10FFFF

/-- Ranges in order, after one from `low` to `high` that begins before them, joined where they
touch or overlap.
-/
def joinFrom (low high : Nat) : List (Nat × Nat) → List (Nat × Nat)
  | [] => [(low, high)]
  | next :: rest =>
    if next.1 ≤ high + 1 then joinFrom low (max high next.2) rest
    else (low, high) :: joinFrom next.1 next.2 rest

/-- The same set with its ranges in order and apart from each other. -/
def normal (s : CodeSet) : CodeSet :=
  match s.ranges.mergeSort fun a b => a.1 ≤ b.1 with
  | [] => ⟨[]⟩
  | first :: rest => ⟨joinFrom first.1 first.2 rest⟩

/-- What ranges that are in order and apart leave uncovered from a code point on. -/
def gapsFrom (start : Nat) : List (Nat × Nat) → List (Nat × Nat)
  | [] => if start ≤ maxCode then [(start, maxCode)] else []
  | (low, high) :: rest =>
    if start < low then (start, low - 1) :: gapsFrom (high + 1) rest
    else gapsFrom (high + 1) rest

/-- The code points that are not in a set. -/
def complement (s : CodeSet) : CodeSet :=
  ⟨gapsFrom 0 s.normal.ranges⟩

/-- The code points of one set that are not in another. -/
def minus (s t : CodeSet) : CodeSet :=
  (s.complement ++ t).complement

/-- The code points that are in both sets. -/
def inter (s t : CodeSet) : CodeSet :=
  (s.complement ++ t.complement).complement

/-- The code points that are in one of two sets and not in the other. -/
def oneSided (s t : CodeSet) : CodeSet :=
  (s ++ t).minus (s.inter t)

/-- The set that holds nothing. -/
def nothing : CodeSet :=
  ⟨[]⟩

/-- The set of all code points. -/
def everything : CodeSet :=
  ⟨[(0, maxCode)]⟩

/-- The set of one character. -/
def ofChar (c : Char) : CodeSet :=
  ⟨[(c.toNat, c.toNat)]⟩

/-- The set of the characters from one to another. -/
def ofChars (low high : Char) : CodeSet :=
  ⟨[(low.toNat, high.toNat)]⟩

/-- The set holds code points of ASCII only. -/
def isAscii (s : CodeSet) : Bool :=
  s.ranges.all fun range => range.2 < 0x80

/-- The value of a digit in base sixteen. -/
def hexDigit? (c : Char) : Option Nat :=
  if '0' ≤ c ∧ c ≤ '9' then some (c.toNat - '0'.toNat)
  else if 'a' ≤ c ∧ c ≤ 'f' then some (c.toNat - 'a'.toNat + 10)
  else if 'A' ≤ c ∧ c ≤ 'F' then some (c.toNat - 'A'.toNat + 10)
  else none

/-- The number that some digits in base sixteen write; other characters count as zero. -/
def hex (digits : List Char) : Nat :=
  digits.foldl (fun n c => n * 16 + (hexDigit? c).getD 0) 0

/-- Reads a range written as `low-high`, or as `low` alone for one code point, in base sixteen. A
range with a stride, written as `low-high/stride`, holds every so many code points.
-/
def rangesOfText (text : List Char) : List (Nat × Nat) :=
  let (range, stride) := Text.cut '/' text
  let (lowText, highText) := Text.cut '-' range
  let low := hex lowText
  let high := hex (if highText.isEmpty then lowText else highText)
  if stride.isEmpty then [(low, high)]
  else
    (List.range ((high - low) / hex stride + 1)).map fun n =>
      (low + n * hex stride, low + n * hex stride)

/-- Reads ranges with a blank between any two. -/
def ofText (text : String) : CodeSet where
  ranges := (Text.split ' ' text.toList).flatMap rangesOfText

/-- Reads lines of ranges. -/
def ofLines (lines : List String) : CodeSet where
  ranges := lines.flatMap fun line => (ofText line).ranges

end CodeSet

end Casebook.Unicode
