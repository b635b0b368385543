import Casebook.Unicode.Property

/-! What a pattern means. An expression leads from places in a text to the places where a match
begun there can end, and a text matches when any place in it leads anywhere.
-/

namespace Casebook.Pattern

/-- Which characters make up words where words begin and end. -/
inductive Words where
  | unicode
  | ascii
deriving Repr, DecidableEq

/-- A condition on a place between characters. -/
inductive Look where
  | textStart
  | textEnd
  | lineStart
  | lineEnd
  | anyLineStart
  | anyLineEnd
  | wordEdge (words : Words)
  | noWordEdge (words : Words)
  | wordStart (words : Words)
  | wordEnd (words : Words)
  | noWordBefore (words : Words)
  | noWordAfter (words : Words)
deriving Repr, DecidableEq

/-- An expression. It reads texts and characters of sets, looks at places, and puts parts in
sequence, in a choice, in repetition or in a numbered group. A repetition that is greedy would
rather be long than short, which matters for what a match takes and not for whether there is one.
-/
inductive Expr where
  | empty
  | literal (text : List Char)
  | set (codes : Unicode.CodeSet)
  | look (condition : Look)
  | seq (a b : Expr)
  | alt (a b : Expr)
  | rep (e : Expr) (least : Nat) (most : Option Nat) (greedy : Bool)
  | group (number : Nat) (e : Expr)
deriving Repr, DecidableEq, Inhabited

namespace Words

/-- The character is part of a word. -/
def hold (w : Words) (c : Char) : Bool :=
  match w with
  | unicode => Unicode.Property.word.contains c.toNat
  | ascii => c.isAlphanum || c = '_'

end Words

namespace Look

/-- Whether the condition holds between two characters, where either may be missing. -/
def holds (look : Look) (before after : Option Char) : Bool :=
  let inWord (w : Words) (c : Option Char) : Bool := c.any w.hold
  match look with
  | textStart => before.isNone
  | textEnd => after.isNone
  | lineStart => before.isNone || before = some '\n'
  | lineEnd => after.isNone || after = some '\n'
  | anyLineStart =>
    before.isNone || before = some '\n' || (before = some '\r' && after ≠ some '\n')
  | anyLineEnd =>
    after.isNone || after = some '\r' || (after = some '\n' && before ≠ some '\r')
  | wordEdge w => inWord w before != inWord w after
  | noWordEdge w => inWord w before == inWord w after
  | wordStart w => !inWord w before && inWord w after
  | wordEnd w => inWord w before && !inWord w after
  | noWordBefore w => !inWord w before
  | noWordAfter w => !inWord w after

end Look

/-- Places of either list, each once if it is once in each list. -/
def joinPlaces (xs ys : List Nat) : List Nat :=
  xs ++ ys.filter fun y => !xs.contains y

/-- The places reached by a step taken exactly `count` times. -/
def exactly (step : List Nat → List Nat) : Nat → List Nat → List Nat
  | 0, places => places
  | count + 1, places => if places.isEmpty then [] else exactly step count (step places)

/-- The places reached by a step taken at most `count` times. It is left off when a step reaches
no new place, since no later one would.
-/
def atMost (step : List Nat → List Nat) : Nat → List Nat → List Nat
  | 0, places => places
  | count + 1, places =>
    let next := joinPlaces places (step places)
    if next.length = places.length then places else atMost step count next

/-- The place behind some characters, if the text has them at a place. -/
def placeAfter? (text : Array Char) : List Char → Nat → Option Nat
  | [], place => some place
  | c :: rest, place => if text[place]? = some c then placeAfter? text rest (place + 1) else none

namespace Expr

/-- The places where a match begun at one of `places` can end. A text of `n` characters has
`n + 1` places, so an unbounded repetition reaches nothing new after as many steps.
-/
def reach (text : Array Char) : Expr → List Nat → List Nat
  | empty, places => places
  | literal chars, places => places.filterMap (placeAfter? text chars)
  | set codes, places =>
    places.filterMap fun place =>
      match text[place]? with
      | some c => if codes.contains c.toNat then some (place + 1) else none
      | none => none
  | look condition, places =>
    places.filter fun place =>
      condition.holds (if place = 0 then none else text[place - 1]?) text[place]?
  | seq a b, places => b.reach text (a.reach text places)
  | alt a b, places => joinPlaces (a.reach text places) (b.reach text places)
  | rep e least most _, places =>
    let begun := exactly (e.reach text) least places
    match most with
    | some most => atMost (e.reach text) (most - least) begun
    | none => atMost (e.reach text) (text.size + 1) begun
  | group _ e, places => e.reach text places

/-- Some part of the text, perhaps an empty one, matches. -/
def isMatch (e : Expr) (text : String) : Bool :=
  let chars := text.toList.toArray
  !(e.reach chars (List.range (chars.size + 1))).isEmpty

end Expr

end Casebook.Pattern
