import Casebook.Pattern.Expr

/-! What a search takes. An expression leads from one place in a text along several ways, which are
in order of preference, and a search goes the first way from the leftmost place that has any.
-/

namespace Casebook.Pattern

/-- How far a way has come: the character read last, what is left of the text, and the groups that
were read, the latest first.
-/
structure Way where
  before : Option Char
  left : List Char
  groups : List (Nat × List Char) := []
deriving Repr, DecidableEq

namespace Way

/-- The way behind a character, with what is left behind it. -/
def pass (w : Way) (c : Char) (left : List Char) : Way :=
  { w with before := some c, left := left }

/-- The ways behind what is left first, if that is a character that passes a test. -/
def readOne (test : Char → Bool) (w : Way) : List Way :=
  match w.left with
  | [] => []
  | c :: left => if test c then [w.pass c left] else []

/-- The ways behind some characters, if they are what is left first. -/
def readAll : List Char → Way → List Way
  | [], w => [w]
  | c :: rest, w => (w.readOne (· = c)).flatMap (readAll rest)

/-- What one way has left and another one has read. -/
def upTo (w after : Way) : List Char :=
  w.left.take (w.left.length - after.left.length)

/-- A way that goes on or ends here, where greed would rather go on. -/
def orStay (greedy : Bool) (further : List Way) (w : Way) : List Way :=
  if greedy then further ++ [w] else w :: further

end Way

/-- The ways behind exactly `count` steps. -/
def stepsOf (step : Way → List Way) : Nat → Way → List Way
  | 0, w => [w]
  | count + 1, w => (step w).flatMap (stepsOf step count)

/-- The ways behind at most `count` steps. -/
def stepsUpTo (step : Way → List Way) (greedy : Bool) : Nat → Way → List Way
  | 0, w => [w]
  | count + 1, w => w.orStay greedy ((step w).flatMap (stepsUpTo step greedy count))

/-- The ways behind any number of steps after a first one. A step that reads nothing would lead to
the same place again and is not gone; any other leaves less, so `count` steps are enough where not
more is left.
-/
def stepsAfter (step : Way → List Way) (greedy : Bool) : Nat → Way → List Way
  | 0, w => [w]
  | count + 1, w =>
    let forward := (step w).filter fun next => next.left.length < w.left.length
    w.orStay greedy (forward.flatMap (stepsAfter step greedy count))

/-- The ways behind one or more steps. It is over when the first one reads nothing. -/
def stepsFrom (step : Way → List Way) (greedy : Bool) (w : Way) : List Way :=
  (step w).flatMap fun next =>
    if next.left.length < w.left.length then stepsAfter step greedy next.left.length next
    else [next]

namespace Expr

/-- The ways that an expression leads along, in order of preference. -/
def ways : Expr → Way → List Way
  | empty, w => [w]
  | literal text, w => w.readAll text
  | set codes, w => w.readOne fun c => codes.contains c.toNat
  | look condition, w => if condition.holds w.before w.left.head? then [w] else []
  | seq a b, w => (a.ways w).flatMap b.ways
  | alt a b, w => a.ways w ++ b.ways w
  | rep e least most greedy, w =>
    match least, most with
    | least, some most => (stepsOf e.ways least w).flatMap (stepsUpTo e.ways greedy (most - least))
    | 0, none => w.orStay greedy (stepsFrom e.ways greedy w)
    | least + 1, none => (stepsOf e.ways least w).flatMap (stepsFrom e.ways greedy)
  | group number e, w =>
    (e.ways w).map fun after =>
      { after with groups := (number, w.upTo after) :: after.groups }

/-- The way that a search in a text goes, behind the character before it if there is one. -/
def find? (e : Expr) (before : Option Char) : List Char → Option Way
  | [] => (e.ways { before := before, left := [] }).head?
  | c :: rest =>
    match (e.ways { before := before, left := c :: rest }).head? with
    | some found => some found
    | none => e.find? (some c) rest

/-- What a search in a text reads for a group. -/
def capture? (e : Expr) (number : Nat) (text : List Char) : Option (List Char) :=
  (e.find? none text).bind fun found => found.groups.lookup number

end Expr

end Casebook.Pattern
