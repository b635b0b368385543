import Casebook.Pattern.Expr.Normal
import Casebook.Pattern.Machine.Set
import Casebook.Pattern.Machine.Words

/-! The machines of expressions. A pattern is run by two machines, one that reads a text forward
and one that reads it backward, and a pattern with a machine that is too large is refused.
-/

namespace Casebook.Pattern

namespace Machine

/-- The machine with `count` more copies of a part behind what it has. -/
def addCopies (part : Machine → Option Machine) : Nat → Machine → Option Machine
  | 0, m => some m
  | count + 1, m =>
    match (part m).bind (·.join m.endsInFork) with
    | some m => addCopies part count m
    | none => none

/-- The machine with `count` copies of a part one behind the other. -/
def exactly (part : Machine → Option Machine) : Nat → Machine → Option Machine
  | 0, m => (m.addStates 1).map closed
  | count + 1, m => (part m).bind (addCopies part count)

/-- The machine with `count` copies of a part that each may be left out with all behind it. -/
def addOptional (part : Machine → Option Machine) : Nat → Machine → Option Machine
  | 0, m => m.join m.endsInFork
  | count + 1, m =>
    let copy := do
      let next ← part (← m.addStates 1)
      (← next.addBranches 2).join m.endsInFork
    match copy with
    | some m => addOptional part count m
    | none => none

/-- The machine with a part any number of times. What may match the empty text needs one more
fork.
-/
def addAny (part : Machine → Option Machine) (takesText : Bool) (m : Machine)
    : Option Machine := do
  if takesText then
    let m ← part (← m.addStates 1)
    let m ← m.join m.endsInFork
    (← m.addBranches 1).forked
  else
    let m ← part m
    let m ← m.join m.endsInFork
    let m ← m.addStates 3
    (← m.addBranches 4).closed

/-- The machine with a part at least once and any number of times. -/
def addSome (part : Machine → Option Machine) (m : Machine) : Option Machine := do
  let m ← part m
  let m ← m.join m.endsInFork
  let m ← m.addStates 1
  (← m.addBranches 1).forked

/-- The machine with a repetition of a part. -/
def addRepetition (part : Machine → Option Machine) (takesText : Bool) (least : Nat)
    (most : Option Nat) (m : Machine) : Option Machine := do
  match least, most with
  | 0, none => addAny part takesText m
  | 1, none => addSome part m
  | least, none =>
    let before ← exactly part (least - 1) m
    let m ← addSome part before
    m.join before.endsInFork
  | 0, some 1 =>
    let m ← part (← m.addStates 1)
    let m ← (← m.addStates 1).addBranches 2
    (← m.join m.endsInFork).closed
  | least, some most =>
    let m ← exactly part least m
    if least = most then some m
    else (← addOptional part (most - least) (← m.addStates 1)).closed

end Machine

namespace Expr

/-- The length of the shortest match, where that is known. -/
def shortest? : Expr → Option Nat
  | empty | look _ => some 0
  | literal text => some text.length
  | set codes => if codes.ranges.isEmpty then none else some 1
  | seq a b => do some ((← a.shortest?) + (← b.shortest?))
  | alt a b => do some (min (← a.shortest?) (← b.shortest?))
  | rep e least _ _ => e.shortest?.map (· * least)
  | group _ e => e.shortest?

/-- Every match begins at the start of the text, as far as the first parts tell. -/
def isAtStart : Expr → Bool
  | look condition => condition = .textStart
  | seq a b => a.isAtStart || (a.isEmptyOnly && b.isAtStart)
  | alt a b => a.isAtStart && b.isAtStart
  | rep e least _ _ => least > 0 && e.isAtStart
  | group _ e => e.isAtStart
  | empty | literal _ | set _ => false

/-- Every match ends at the end of the text, as far as the last parts tell. -/
def isAtEnd : Expr → Bool
  | look condition => condition = .textEnd
  | seq a b => b.isAtEnd || (b.isEmptyOnly && a.isAtEnd)
  | alt a b => a.isAtEnd && b.isAtEnd
  | rep e least _ _ => least > 0 && e.isAtEnd
  | group _ e => e.isAtEnd
  | empty | literal _ | set _ => false

/-- The bytes of a text. -/
def bytesOf (text : List Char) : List Nat :=
  text.flatMap fun c => ByteRange.encode c.toNat

/-- The words that an expression is a choice of, if all its branches are texts. -/
def words? (e : Expr) : Option (List (List Nat)) :=
  e.branches.mapM fun branch =>
    match branch with
    | literal text => some (bytesOf text)
    | _ => none

/-- How an expression stands in a machine: by itself, or as a branch of a choice. The fork of a
choice is built behind its second branch.
-/
inductive Standing where
  | alone
  | secondBranch
  | branch
deriving DecidableEq, Repr

/-- Joins the part built last to the choice that it is a branch of. -/
def Standing.join (s : Standing) (m : Machine) : Option Machine := do
  let m' ← if s = .secondBranch then m.addStates 2 else some m
  if s = .alone then some m
  else
    let joined ← (← m'.addBranches 1).join m.endsInFork
    some joined.closed

/-- The machine with an expression. Groups have states of their own in a machine that reads
forward, which is the one that tells where they match.
-/
def build (d : Direction) : Expr → Standing → Machine → Option Machine
  | empty, s, m => do s.join (← m.addStates 1).closed
  | literal text, s, m => do s.join (← m.addStates (bytesOf text).length).closed
  | set codes, s, m => do s.join (← m.addSet d codes)
  | look _, s, m => do s.join (← m.addStates 1).closed
  | seq a b, s, m => do
    let (first, second) :=
      match d with
      | .forward => (a.build d .alone, b.build d .alone)
      | .backward => (b.build d .alone, a.build d .alone)
    let before ← first m
    s.join (← (← second before).join before.endsInFork)
  | alt a b, .alone, m => do
    match (alt a b).words? with
    | some words => m.addWords d words
    | none => b.build d .secondBranch (← a.build d .branch m)
  | alt a b, .secondBranch, m => do b.build d .branch (← a.build d .secondBranch m)
  | alt a b, .branch, m => do b.build d .branch (← a.build d .branch m)
  | rep e least most _, s, m => do
    let takesText := e.shortest?.any (0 < ·)
    s.join (← m.addRepetition (e.build d .alone) takesText least most)
  | group _ e, s, m => do
    match d with
    | .forward =>
      let m ← e.build d .alone (← m.addStates 1)
      s.join (← (← m.addStates 1).join m.endsInFork).closed
    | .backward => s.join (← e.build d .alone m)

/-- The machine for an expression, unless it is too large. Where a match need not begin at the
first character read, a loop over any bytes stands before it; a machine that reads forward tells
where the match begins and ends.
-/
def machine? (d : Direction) (e : Expr) : Option Machine := do
  let anchored :=
    match d with
    | .forward => e.isAtStart
    | .backward => e.isAtEnd
  let m : Machine := {}
  let m ←
    if anchored then m.addStates 1
    else m.addStates 3 (Machine.transitionBytes + 2 * Machine.branchBytes)
  let around := if d = .forward then 1 else 0
  let m ← e.build d .alone (← m.addStates around)
  (← m.addStates (around + 1)).join m.endsInFork

/-- The number of texts from which on a choice of texts is looked up without a machine. -/
def manyWords : Nat := 3000

/-- A machine for the expression is too large. -/
def isTooLarge (e : Expr) : Bool :=
  if e.branches.length ≥ manyWords && e.words?.isSome then false
  else (e.machine? .forward).isNone || (e.machine? .backward).isNone

end Expr

end Casebook.Pattern
