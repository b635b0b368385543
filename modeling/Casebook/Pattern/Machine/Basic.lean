/-! Machines that run patterns, as far as their size goes: how many states they have and how many
bytes these take. A machine is built part by part and given up as soon as it is too large.
-/

namespace Casebook.Pattern

/-- The direction in which a machine reads. -/
inductive Direction where
  | forward
  | backward
deriving DecidableEq, Repr

/-- A machine that is being built: how many states it has, how many bytes they take, and whether
the part built last ends in a fork. What is joined to a fork becomes one more branch of it.
-/
structure Machine where
  states : Nat := 0
  bytes : Nat := 0
  endsInFork : Bool := false
deriving DecidableEq, Repr, Inhabited

namespace Machine

/-- The most bytes that the states of a machine may take. -/
def maxBytes : Nat := 10485760

/-- The bytes of a state by itself. -/
def stateBytes : Nat := 32

/-- The bytes of each transition that a state has in a list. -/
def transitionBytes : Nat := 8

/-- The bytes of each branch of a fork. -/
def branchBytes : Nat := 4

/-- The machine, unless it is too large. -/
def checked (m : Machine) : Option Machine :=
  if m.bytes ≤ maxBytes then some m else none

/-- The machine with more states, which take some bytes besides their own. -/
def addStates (m : Machine) (count : Nat) (more : Nat := 0) : Option Machine :=
  checked { m with states := m.states + count, bytes := m.bytes + stateBytes * count + more }

/-- The machine with more branches of its forks. -/
def addBranches (m : Machine) (count : Nat) : Option Machine :=
  checked { m with bytes := m.bytes + branchBytes * count }

/-- The machine after a part that ends in a fork, or in none, was joined to something. -/
def join (m : Machine) (endsInFork : Bool) : Option Machine :=
  if endsInFork then m.addBranches 1 else some m

/-- The machine with a part whose end is no fork. -/
def closed (m : Machine) : Machine :=
  { m with endsInFork := false }

/-- The machine with a part whose end is a fork. -/
def forked (m : Machine) : Machine :=
  { m with endsInFork := true }

end Machine

end Casebook.Pattern
