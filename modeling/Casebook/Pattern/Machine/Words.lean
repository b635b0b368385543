import Casebook.Pattern.Machine.Basic

/-! Machines for choices of words. The words are put into a tree by their first bytes, in which an
earlier word still goes before a later one.
-/

namespace Casebook.Pattern.Machine

/-- A word behind those that begin with the same byte, which are kept without it. -/
def groupWord (byte : Nat) (rest : List Nat) : List (Nat × List (List Nat))
    → List (Nat × List (List Nat))
  | [] => [(byte, [rest])]
  | (first, rests) :: more =>
    if first = byte then (first, rests ++ [rest]) :: more
    else (first, rests) :: groupWord byte rest more

/-- The words between those that are empty, each lot grouped by the first bytes. -/
def groupWords (words : List (List Nat)) : List (List (Nat × List (List Nat))) :=
  let step (lots : List (List (Nat × List (List Nat)))) (word : List Nat) :=
    match word, lots with
    | [], lots => [] :: lots
    | byte :: rest, lot :: more => groupWord byte rest lot :: more
    | byte :: rest, [] => [groupWord byte rest []]
  (words.foldl step [[]]).reverse

/-- The machine with a tree for a choice of words that are at most `depth` bytes long. Each place
in the tree is a fork of the lots of words that go on from there, in order, and of the ends of
words between them; a place where all words end has no state. Words that end at a place before any
other goes on from there count as one.
-/
def addWordTree : Nat → List (List Nat) → Machine → Option Machine
  | 0, _, m => some m
  | depth + 1, words, m =>
    let words :=
      if words.head? = some [] then [] :: words.dropWhile List.isEmpty else words
    let lots := groupWords words
    let used := lots.filter fun lot => !lot.isEmpty
    let listed := used.filter fun lot => lot.length > 1
    let transitions := listed.foldl (fun total lot => total + lot.length) 0
    let deeper := (used.flatMap fun lot => lot.map (·.2)).filter fun rests =>
      rests.any fun rest => !rest.isEmpty
    let branches := lots.length - 1 + used.length
    match m.addStates (used.length + 1)
        (transitionBytes * transitions + branchBytes * branches) with
    | some m => deeper.foldlM (fun m rests => addWordTree depth rests m) m
    | none => none

/-- The machine with a choice of words. -/
def addWords (d : Direction) (words : List (List Nat)) (m : Machine) : Option Machine := do
  let words := if d = .backward then words.map List.reverse else words
  let m ← m.addStates 1
  let m ← addWordTree (words.foldl (fun longest word => max longest word.length) 0) words m
  some m.closed

end Casebook.Pattern.Machine
