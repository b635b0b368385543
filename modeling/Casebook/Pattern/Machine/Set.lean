import Casebook.Pattern.ByteRange
import Casebook.Pattern.Machine.Basic
import Std.Data.HashMap

/-! Machines for sets of code points. The sequences of bytes that encode a set share states, but a
machine remembers only so many of the states that it has, each at a place that follows from its
transitions. So the size of a set depends on the numbers of the states before it.
-/

namespace Casebook.Pattern.Machine

/-- The place in a table of `size` places of what some numbers tell apart. -/
def slot (size : Nat) (numbers : List Nat) : Nat :=
  let hash :=
    numbers.foldl (fun (hash : UInt64) n => hash.xor n.toUInt64 * 1099511628211)
      14695981039346656037
  hash.toNat % size

/-- A transition: the bytes that it is for and the number of the state that it leads to. -/
structure Transition where
  bytes : ByteRange
  target : Nat
deriving Repr, DecidableEq

/-- A state that is being built: the transitions it has, the latest first, and the bytes of a
further one that leads to a state that is being built, too.
-/
structure Draft where
  done : List Transition := []
  next : Option ByteRange := none

/-- The draft with its last transition leading to a state. -/
def Draft.close (d : Draft) (target : Nat) : Draft :=
  match d.next with
  | some bytes => { done := ⟨bytes, target⟩ :: d.done }
  | none => d

/-- A machine with the states that were built for a set before, in a table that remembers one
state at each place.
-/
structure Sharing where
  machine : Machine
  known : Std.HashMap Nat (List Transition × Nat) := {}

/-- The number of a state with some transitions, which is built if no such state is known. -/
def Sharing.state (s : Sharing) (transitions : List Transition) : Option (Nat × Sharing) :=
  let place := slot 10000 (transitions.flatMap fun t => [t.bytes.low, t.bytes.high, t.target])
  let fresh : Option (Nat × Sharing) :=
    let number := s.machine.states
    (s.machine.addStates 1 (transitionBytes * transitions.length)).map fun machine =>
      (number, { machine := machine, known := s.known.insert place (transitions, number) })
  match s.known[place]? with
  | some (same, number) => if same = transitions then some (number, s) else fresh
  | none => fresh

/-- Builds the states of drafts that lead one to the next, the last one to `target`, and gives
the number of the first.
-/
def closeDrafts (target : Nat) : List Draft → Sharing → Option (Nat × Sharing)
  | [], s => some (target, s)
  | draft :: deeper, s =>
    match closeDrafts target deeper s with
    | some (number, s) => s.state (draft.close number).done.reverse
    | none => none

/-- Adds a sequence of bytes to drafts that lead one to the next. What it has in common with the
sequence before stays open, and the drafts beyond are built.
-/
def addSequence (target : Nat) : List Draft → List ByteRange → Sharing
    → Option (List Draft × Sharing)
  | draft :: deeper, bytes :: rest, s =>
    if draft.next = some bytes then
      match addSequence target deeper rest s with
      | some (deeper, s) => some (draft :: deeper, s)
      | none => none
    else
      match closeDrafts target deeper s with
      | some (number, s) =>
        some
          ({ draft.close number with next := some bytes }
            :: rest.map fun bytes => { next := some bytes }, s)
      | none => none
  | drafts, _, s => some (drafts, s)

/-- Adds sequences of bytes in order and builds what is left of the drafts. -/
def addSequences (target : Nat) : List (List ByteRange) → List Draft → Sharing → Option Machine
  | [], drafts, s => (closeDrafts target drafts s).map fun (_, s) => s.machine
  | bytes :: more, drafts, s =>
    match addSequence target drafts bytes s with
    | some (drafts, s) => addSequences target more drafts s
    | none => none

/-- The machine with a set that is read forward. Alike states of it are shared. -/
def addForward (m : Machine) (sequences : List (List ByteRange)) : Option Machine :=
  match m.addStates 1 with
  | some machine => addSequences m.states sequences [{}] { machine := machine }
  | none => none

/-- A machine with the transitions that were built for a set before. -/
structure Chaining where
  machine : Machine
  known : Std.HashMap Nat (Transition × Nat) := {}

/-- The number of a state that leads to another by some bytes, built if none is known. -/
def Chaining.state (c : Chaining) (transition : Transition) : Option (Nat × Chaining) :=
  let place := slot 1000 [transition.target, transition.bytes.low, transition.bytes.high]
  let fresh : Option (Nat × Chaining) :=
    let number := c.machine.states
    (c.machine.addStates 1).map fun machine =>
      (number, { machine := machine, known := c.known.insert place (transition, number) })
  match c.known[place]? with
  | some (same, number) => if same = transition then some (number, c) else fresh
  | none => fresh

/-- Builds the states that lead to `target` by bytes in reverse. -/
def addChain (target : Nat) : List ByteRange → Chaining → Option Chaining
  | [], c => some c
  | bytes :: rest, c =>
    match c.state ⟨bytes, target⟩ with
    | some (number, c) => addChain number rest c
    | none => none

/-- Builds the chains of sequences of bytes, each a branch of one fork. -/
def addChains (target : Nat) : List (List ByteRange) → Chaining → Option Machine
  | [], c => some c.machine
  | bytes :: more, c =>
    match addChain target bytes c with
    | some c =>
      match c.machine.addBranches 1 with
      | some machine => addChains target more { c with machine := machine }
      | none => none
    | none => none

/-- The machine with a set that is read backward. Sequences share states from their first bytes
on, which are read last.
-/
def addBackward (m : Machine) (sequences : List (List ByteRange)) : Option Machine :=
  match m.addStates 2 with
  | some machine => addChains (m.states + 1) sequences { machine := machine }
  | none => none

/-- The machine with a set. One of ASCII is a single state with a list of transitions. -/
def addSet (d : Direction) (codes : Unicode.CodeSet) (m : Machine) : Option Machine :=
  let built :=
    if codes.isAscii then m.addStates 2 (transitionBytes * codes.ranges.length)
    else
      match d with
      | .forward => m.addForward (ByteRange.sequences codes)
      | .backward => m.addBackward (ByteRange.sequences codes)
  built.map closed

end Casebook.Pattern.Machine
