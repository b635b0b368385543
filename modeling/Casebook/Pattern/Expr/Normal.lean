import Casebook.Pattern.Expr

/-! Expressions in normal form. Sequences and choices are as flat as they can be and lean to the
right, texts in sequence are one text, a choice of characters is a set, and what all sequences of
a choice begin with stands before the choice. What an expression matches stays the same; how it is
built decides how large the machine for it is.
-/

namespace Casebook.Pattern.Expr

open Unicode (CodeSet)

/-- The parts of a sequence, in order. What is no sequence is its own only part, and the empty
expression has none.
-/
def parts : Expr → List Expr
  | empty => []
  | seq a b => a :: b.parts
  | e => [e]

/-- The branches of a choice, in order. What is no choice is its own only branch. -/
def branches : Expr → List Expr
  | alt a b => a :: b.branches
  | e => [e]

/-- The number of expressions in an expression, itself among them. -/
def size : Expr → Nat
  | seq a b | alt a b => a.size + b.size + 1
  | rep e _ _ _ | group _ e => e.size + 1
  | empty | literal _ | set _ | look _ => 1

/-- The expression matches no text but the empty one. -/
def isEmptyOnly : Expr → Bool
  | empty | look _ => true
  | literal text => text.isEmpty
  | set _ => false
  | seq a b | alt a b => a.isEmptyOnly && b.isEmptyOnly
  | rep e _ _ _ | group _ e => e.isEmptyOnly

/-- An expression before others in sequence, where two texts become one. -/
def attach : Expr → List Expr → List Expr
  | literal s, literal t :: rest => literal (s ++ t) :: rest
  | e, rest => e :: rest

/-- The sequence of some parts, none of which is a sequence. -/
def ofParts : List Expr → Expr
  | [] => empty
  | [e] => e
  | e :: rest => seq e (ofParts rest)

/-- Expressions one behind the other. -/
def sequence (es : List Expr) : Expr :=
  ofParts ((es.flatMap parts).foldr attach [])

/-- The expression for a set. Surrogates are no characters, and a set of a single character is the
text of it.
-/
def ofSet (codes : CodeSet) : Expr :=
  let codes := codes.minus Unicode.Category.surrogate
  match codes.ranges with
  | [(low, high)] => if low = high then literal [Char.ofNat low] else set codes
  | _ => set codes

/-- The choice between some branches, none of which is a choice. -/
def ofBranches : List Expr → Expr
  | [] => set .nothing
  | [e] => e
  | e :: rest => alt e (ofBranches rest)

/-- The character that an expression stands for, if it does for one. -/
def char? : Expr → Option Char
  | literal [c] => some c
  | _ => none

/-- The set that an expression stands for, if it does for one. -/
def set? : Expr → Option CodeSet
  | set codes => some codes
  | _ => none

/-- The expression is a sequence of several parts. -/
def isSequence : Expr → Bool
  | seq _ _ => true
  | _ => false

/-- What two lists of parts begin with alike. -/
def commonParts : List Expr → List Expr → List Expr
  | a :: as, b :: bs => if a = b then a :: commonParts as bs else []
  | _, _ => []

/-- The parts that all of some expressions begin with, if they are sequences. -/
def leadingParts : List Expr → List Expr
  | [] => []
  | first :: rest =>
    if (first :: rest).all isSequence then
      rest.foldl (fun leading e => commonParts leading e.parts) first.parts
    else []

/-- The choice between some expressions, with leading parts taken out at most `rounds` times. -/
def choiceWithin : Nat → List Expr → Expr
  | 0, es => ofBranches (es.flatMap branches)
  | rounds + 1, es =>
    match es.flatMap branches with
    | [] => ofBranches []
    | [e] => e
    | es =>
      match es.mapM char?, es.mapM set? with
      | some chars, _ => ofSet ⟨chars.map fun c => (c.toNat, c.toNat)⟩
      | none, some sets => ofSet ⟨sets.flatMap CodeSet.ranges⟩
      | none, none =>
        let leading := leadingParts es
        if leading.isEmpty then ofBranches es
        else
          let rests := es.map fun e => sequence (e.parts.drop leading.length)
          sequence (leading ++ [choiceWithin rounds rests])

/-- The choice between some expressions. Each round takes out a part, so there are fewer rounds
than parts.
-/
def choice (es : List Expr) : Expr :=
  choiceWithin (es.foldl (fun total e => total + e.size) 1) es

/-- A repetition. Repeating what matches the empty text only is the same as having it once. -/
def repeated (e : Expr) (least : Nat) (most : Option Nat) (greedy : Bool) : Expr :=
  let (least, most) :=
    if e.isEmptyOnly then (min least 1, some (min (most.getD 1) 1)) else (least, most)
  if most = some 0 then empty
  else if least = 1 && most = some 1 then e
  else rep e least most greedy

end Casebook.Pattern.Expr
