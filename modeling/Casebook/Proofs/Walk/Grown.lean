import Casebook.Proofs.Tree.Grown
import Casebook.Proofs.Walk.Congruence
import Casebook.Proofs.Walk.Followed
import Casebook.Proofs.Walk.Listed

/-! Walks of trees that have grown. A walk lists what it listed before if all that it comes across
stood there before as it does now, and every link among it leads to where it led before.
-/

namespace Casebook

/-- The path under which something is met. -/
def Visit.path : Visit → String
  | .directory path | .file path _ | .link path _ | .unreadable path _ | .loop path _ => path

/-- The path of which a verdict on a visit depends on what it leads to. -/
def Visit.lookedUp? : Visit → Option String
  | .file path _ | .link path _ => some path
  | .directory _ | .unreadable .. | .loop .. => none

/-- Walks in two trees meet the same, and what is looked up to judge it leads alike in both. -/
structure Visit.Agree (t t' : Tree) (visits visits' : List Visit) : Prop where
  same : visits' = visits
  leads : ∀ visit ∈ visits, ∀ path, visit.lookedUp? = some path → t.LeadsAlike t' path

namespace Visit.Agree

variable {t t' : Tree} {visits visits' : List Visit}

theorem nil
    : Agree t t' [] [] :=
  ⟨rfl, nofun⟩

theorem cons {visit : Visit} (leads : ∀ path, visit.lookedUp? = some path → t.LeadsAlike t' path)
    (agree : Agree t t' visits visits')
    : Agree t t' (visit :: visits) (visit :: visits') := by
  refine ⟨congrArg _ agree.same, fun other member => ?_⟩
  rcases List.mem_cons.mp member with rfl | behind
  · exact leads
  · exact agree.leads other behind

theorem single {visit : Visit}
    (leads : ∀ path, visit.lookedUp? = some path → t.LeadsAlike t' path)
    : Agree t t' [visit] [visit] :=
  .cons leads .nil

/-- A directory that is met is not looked up. -/
theorem directory (agree : Agree t t' visits visits') (path : String)
    : Agree t t' (.directory path :: visits) (.directory path :: visits') :=
  .cons nofun agree

theorem flatMap {names : List Tree.Name} {under under' : Tree.Name → List Visit}
    (each : ∀ n, Agree t t' (under n) (under' n))
    : Agree t t' (names.flatMap under) (names.flatMap under') := by
  refine ⟨List.flatMap_congr fun n _ => (each n).same, fun visit member => ?_⟩
  obtain ⟨n, -, among⟩ := List.mem_flatMap.mp member
  exact (each n).leads visit among

end Visit.Agree

namespace Walker

/-- What a walk meets in the directory that it is in. -/
def within (w : Walker) (t : Tree) (p : Position) : List Visit :=
  w.below t p.onPath p.path (p.names.map Tree.Name.text) p.place

/-- What a walk meets under a name in the directory that it is in. -/
def under (w : Walker) (t : Tree) (p : Position) (n : Tree.Name) : List Visit :=
  match t.get? (n :: p.place) with
  | none => []
  | some (.file _) => [.file (p.pathOf n) (Path.ofNames (p.names ++ [n]))]
  | some .directory =>
    if w.filter.isEntered (p.pathOf n) then
      .directory (p.pathOf n) :: w.within t (p.into n (n :: p.place))
    else []
  | some (.link _) =>
    if !w.followLinks then [.link (p.pathOf n) (Path.ofNames (p.names ++ [n]))]
    else
      match t.stat (p.pathOf n) with
      | .error cause => [.unreadable (p.pathOf n) cause]
      | .ok (target, .directory) =>
        match p.onPath.find? (·.1 = target) with
        | some (_, ancestor) => [.loop (p.pathOf n) ancestor]
        | none =>
          if w.filter.isEntered (p.pathOf n) then
            .directory (p.pathOf n) :: w.within t (p.into n target)
          else []
      | .ok _ => [.file (p.pathOf n) (Path.ofNames (p.names ++ [n]))]

/-- A walk gets to a position in a directory below a root. A link leads it on only if it follows
links.
-/
inductive Comes (w : Walker) (t : Tree) (root : String) : Position → Prop
  | root {place} (found : t.stat root = .ok (place, .directory))
    : w.Comes t root (.atRoot root place)
  | into {p n q} (before : w.Comes t root p) (opens : w.Opens t p n q)
    (goes : w.followLinks = true ∨ t.get? (n :: p.place) = some .directory)
    : w.Comes t root q

variable {w : Walker} {t t' : Tree} {p : Position} {n : Tree.Name} {root : String}

theorem Comes.found (comes : w.Comes t root p)
    : t.stat p.path = .ok (p.place, .directory) := by
  cases comes with
  | root found => exact found
  | into _ opens => exact opens.found

/-- Where a walk may go below a directory, it meets there what it meets under each name. -/
theorem within_eq (found : t.stat p.path = .ok (p.place, .directory))
    : w.within t p
      = if w.maxDepth.any (· ≤ p.names.length) then []
        else (t.children p.place).flatMap (w.under t p) := by
  have relativePath (n : Tree.Name)
      : String.intercalate "/" (p.names.map Tree.Name.text ++ [n.text])
        = Path.ofNames (p.names ++ [n]) := by
    rw [Path.ofNames, List.map_append, List.map_singleton]
  rw [within, below]
  simp only [List.length_map, found]
  split
  next => rfl
  next =>
    refine List.flatMap_congr fun n _ => ?_
    unfold under
    simp only [within, Position.into, List.map_append, List.map_singleton, ← relativePath]
    generalize t.get? (n :: p.place) = entry
    rcases entry with _ | _ | _ | _
    case none | some.directory | some.file => rfl
    case some.link =>
      dsimp only [Position.pathOf]
      generalize t.stat (Path.join p.path n.text) = found
      rcases found with cause | ⟨q, _ | _ | _⟩
      case error | ok.file | ok.link => rfl
      case ok.directory =>
        dsimp only
        generalize p.onPath.find? (·.1 = q) = visited
        cases visited <;> rfl

-----------------------------------------------------------------------------------------
-- What is met below a directory
-----------------------------------------------------------------------------------------

end Walker

end Casebook
