import Casebook.Proofs.Tree.Route

/-! Copies of a tree at a location of another one. Steps are followed through a copy as through the
tree by itself, unless they come above its top or begin at the root again, and links that may still
be followed and are not needed change nothing.
-/

namespace Casebook.Tree

-----------------------------------------------------------------------------------------
-- Ways out of a tree
-----------------------------------------------------------------------------------------

/-- Steps from a location come above the top of the tree, or through a link whose path begins at the
root. A way that ends before that, for one at something that is no directory, does not leave.
-/
inductive Leaves (D : Tree) : Location → List Step → Prop
  | above {rest} : D.Leaves [] (.up :: rest)
  | root {place n rest target} (directory : D.get? place = some .directory)
    (stands : D.get? (n :: place) = some (.link target)) (rooted : target.toList.head? = some '/')
    : D.Leaves place (.into n :: rest)
  | stay {place step rest} (directory : D.get? place = some .directory)
    (stays : step = .here ∨ step = .blank) (onward : D.Leaves place rest)
    : D.Leaves place (step :: rest)
  | up {n place rest} (directory : D.get? (n :: place) = some .directory)
    (onward : D.Leaves place rest)
    : D.Leaves (n :: place) (.up :: rest)
  | down {place n rest} (directory : D.get? place = some .directory)
    (below : D.get? (n :: place) = some .directory) (onward : D.Leaves (n :: place) rest)
    : D.Leaves place (.into n :: rest)
  | link {place n rest target} (directory : D.get? place = some .directory)
    (stands : D.get? (n :: place) = some (.link target))
    (onward : D.Leaves place (steps target.toList ++ rest))
    : D.Leaves place (.into n :: rest)

/-- No link of the tree leads out of it. -/
def Closed (D : Tree) : Prop :=
  ∀ n place target, D.get? (n :: place) = some (.link target) → ¬ D.Leaves place [.into n]

variable {D t : Tree} {top place : Location} {path : List Step}

/-- A way that leaves begins in a directory. -/
theorem Leaves.directory (leaves : D.Leaves place path)
    : D.get? place = some .directory := by
  cases leaves <;> first | assumption | rfl

/-- A way leaves in its front or from where its front leads, by induction on it. -/
theorem Leaves.of_append {front rest : List Step} (leaves : D.Leaves place (front ++ rest))
    : D.Leaves place front ∨ ∃ q, D.Leaves q rest := by
  generalize same : front ++ rest = path at leaves
  have whole := leaves
  -- The front is empty, or it begins with the step that the way begins with.
  induction leaves generalizing front with
  | above =>
    rcases List.append_eq_cons_iff.mp same with ⟨-, rfl⟩ | ⟨more, rfl, -⟩
    · exact .inr ⟨_, whole⟩
    · exact .inl .above
  | root directory stands rooted =>
    rcases List.append_eq_cons_iff.mp same with ⟨-, rfl⟩ | ⟨more, rfl, -⟩
    · exact .inr ⟨_, whole⟩
    · exact .inl (.root directory stands rooted)
  | stay directory stays onward ih =>
    rcases List.append_eq_cons_iff.mp same with ⟨-, rfl⟩ | ⟨more, rfl, rfl⟩
    · exact .inr ⟨_, whole⟩
    · exact (ih rfl onward).imp_left (.stay directory stays)
  | up directory onward ih =>
    rcases List.append_eq_cons_iff.mp same with ⟨-, rfl⟩ | ⟨more, rfl, rfl⟩
    · exact .inr ⟨_, whole⟩
    · exact (ih rfl onward).imp_left (.up directory)
  | down directory below onward ih =>
    rcases List.append_eq_cons_iff.mp same with ⟨-, rfl⟩ | ⟨more, rfl, rfl⟩
    · exact .inr ⟨_, whole⟩
    · exact (ih rfl onward).imp_left (.down directory below)
  | link directory stands onward ih =>
    rcases List.append_eq_cons_iff.mp same with ⟨-, rfl⟩ | ⟨more, rfl, rfl⟩
    · exact .inr ⟨_, whole⟩
    · exact (ih (List.append_assoc _ _ _) onward).imp_left (.link directory stands)

/-- Names lead out of no tree whose links do not, by induction on them. -/
theorem Closed.not_leaves (closed : D.Closed) (place : Location) (names : List Name)
    : ¬ D.Leaves place (names.map .into) := by
  induction names generalizing place with
  | nil => nofun
  | cons n rest ih =>
    intro leaves
    rw [List.map_cons, ← List.singleton_append] at leaves
    rcases leaves.of_append with first | ⟨q, later⟩
    · cases first with
      | root directory stands rooted =>
        exact closed n place _ stands (.root directory stands rooted)
      | down _ _ onward => cases onward
      | link directory stands onward =>
        exact closed n place _ stands (.link directory stands onward)
      | stay _ stays => rcases stays with impossible | impossible <;> cases impossible
    · exact ih q later

/-- A tree is closed if the paths of its links neither begin at the root nor go up, by induction on
a way that would leave.
-/
theorem Closed.of_links
    (links
      : ∀ n place target,
          D.get? (n :: place) = some (.link target) →
          target.toList.head? ≠ some '/' ∧ .up ∉ steps target.toList)
    : D.Closed := by
  have stays {place : Location} {path : List Step} (leaves : D.Leaves place path)
      : .up ∈ path := by
    induction leaves with
    | above => exact List.mem_cons_self
    | root _ stands rooted => exact absurd rooted (links _ _ _ stands).1
    | stay _ _ _ ih => exact List.mem_cons_of_mem _ ih
    | up => exact List.mem_cons_self
    | down _ _ _ ih => exact List.mem_cons_of_mem _ ih
    | link _ stands _ ih =>
      rcases List.mem_append.mp ih with inTarget | behind
      · exact absurd inTarget (links _ _ _ stands).2
      · exact List.mem_cons_of_mem _ behind
  intro n place target _ leaves
  simpa using stays leaves

-----------------------------------------------------------------------------------------
-- Copies
-----------------------------------------------------------------------------------------

/-- A copy of the first tree stands in the second one at a location. -/
def StandsAt (D t : Tree) (top : Location) : Prop :=
  ∀ place, t.get? (place ++ top) = D.get? place

/-- A place of a tree in its copy at a location. -/
def Place.under (top : Location) : Place → Place
  | .entry place => .entry (place ++ top)
  | .vacant place => .vacant (place ++ top)

/-- Steps that do not leave are followed alike in a tree and its copy, if the links among them are.
By induction on the steps.
-/
theorem stepThrough_copied (stands : D.StandsAt t top)
    {onLink onLink' : Location → List Step → Except IoError Place}
    (links
      : ∀ place path, ¬ D.Leaves place path →
          onLink' (place ++ top) path = (onLink place path).map (Place.under top))
    (purpose : Purpose) (stays : ¬ D.Leaves place path)
    : t.stepThrough onLink' purpose (place ++ top) path
      = (D.stepThrough onLink purpose place path).map (Place.under top) := by
  induction path generalizing place with
  | nil => rfl
  | cons step rest ih =>
    simp only [stepThrough, stands place]
    by_cases directory : D.get? place = some .directory
    · rw [if_neg (not_not_intro directory), if_neg (not_not_intro directory)]
      cases step with
      | here => exact ih fun leaves => stays (.stay directory (.inl rfl) leaves)
      | blank => exact ih fun leaves => stays (.stay directory (.inr rfl) leaves)
      | up =>
        cases place with
        | nil => exact absurd .above stays
        | cons n up => exact ih fun leaves => stays (.up directory leaves)
      | into n =>
        have below : t.get? (n :: (place ++ top)) = D.get? (n :: place) := stands (n :: place)
        dsimp only
        rw [below]
        split
        next => rfl
        next =>
        split
        next => rfl
        next =>
        cases entry : D.get? (n :: place) with
        | none => dsimp only; split <;> rfl
        | some e =>
          cases e with
          | link target =>
            have start (base : Location) : startOf base target.toList = base :=
              if_neg fun rooted => stays (.root directory entry rooted)
            dsimp only
            split
            next => rfl
            next =>
            split
            next => rfl
            next =>
              rw [start, start]
              exact links _ _ fun leaves => stays (.link directory entry leaves)
          | directory =>
            dsimp only
            split
            next => rfl
            next => exact ih fun leaves => stays (.down directory entry leaves)
          | file bytes =>
            dsimp only
            split
            next => rfl
            next =>
              have stays : ¬ D.Leaves (n :: place) rest := by
                intro leaves
                cases entry.symm.trans leaves.directory
              exact ih stays
    · rw [if_pos directory, if_pos directory]
      rfl

/-- Steps that do not leave are followed alike in a tree and its copy, by induction on the links
that they may lead through.
-/
theorem follow_copied (stands : D.StandsAt t top) (purpose : Purpose) (links : Nat)
    (stays : ¬ D.Leaves place path)
    : t.follow purpose links (place ++ top) path
      = (D.follow purpose links place path).map (Place.under top) := by
  rw [follow_eq, follow_eq]
  induction links generalizing place path with
  | zero => exact stepThrough_copied stands (fun _ _ _ => rfl) purpose stays
  | succ links ih =>
    refine stepThrough_copied stands (fun place path stays => ?_) purpose stays
    rw [followLink, followLink, follow_eq, follow_eq]
    exact ih stays

/-- The tree with a copy of another one in a directory of a name right below its top. -/
def withCopy (t D : Tree) (m : Name) : Tree where
  entries := t.entries ++ ([m], .directory) :: D.entries.map fun listed => (listed.1 ++ [m], listed.2)
  home := t.home

theorem get?_append_singleton (t : Tree) (place : Location) (m : Name)
    : t.get? (place ++ [m]) = (t.entries.find? (·.1 = place ++ [m])).map (·.2) := by
  cases place <;> rfl

/-- Any tree has a copy under any name that nothing has yet. -/
theorem standsAt_withCopy {m : Name} (new : ∀ listed ∈ t.entries, ¬ [m] <:+ listed.1)
    : D.StandsAt (t.withCopy D m) [m] := by
  intro place
  have absent : t.entries.find? (·.1 = place ++ [m]) = none := by
    rw [List.find?_eq_none]
    intro listed member same
    rw [decide_eq_true_eq] at same
    exact new listed member (same ▸ List.suffix_append place [m])
  rw [get?_append_singleton, withCopy, List.find?_append, absent, Option.none_or, List.find?_cons]
  cases place with
  | nil =>
    simp only [List.nil_append, decide_true, Option.map_some, get?]
  | cons n up =>
    have other : [m] ≠ n :: up ++ [m] := by simp
    simp only [other, decide_false, List.find?_map, Function.comp_def, List.append_left_inj,
      Option.map_map, get?]

/-- A copy stays where it is when another one is put beside it. -/
theorem StandsAt.withCopy {m other : Name} (stands : D.StandsAt t [m]) (apart : m ≠ other)
    (E : Tree)
    : D.StandsAt (t.withCopy E other) [m] := by
  intro place
  have absent
      : (([other], Entry.directory)
            :: E.entries.map fun listed => (listed.1 ++ [other], listed.2)).find?
          (·.1 = place ++ [m])
        = none := by
    have differs (q : Location) : q ++ [other] ≠ place ++ [m] := by
      intro same
      exact apart (List.singleton_inj.mp (List.append_inj_right' same rfl)).symm
    rw [List.find?_eq_none]
    intro listed member
    rw [decide_eq_true_eq]
    rcases List.mem_cons.mp member with rfl | inCopy
    · exact differs []
    · obtain ⟨inside, -, rfl⟩ := List.mem_map.mp inCopy
      exact differs inside.1
  rw [← stands place, get?_append_singleton, get?_append_singleton, Tree.withCopy,
    List.find?_append, absent, Option.or_none]

-----------------------------------------------------------------------------------------
-- Links to spare
-----------------------------------------------------------------------------------------

/-- Steps that are not stopped at a link are followed alike where links are. By induction on the
steps.
-/
theorem stepThrough_more {onLink onLink' : Location → List Step → Except IoError Place}
    (links
      : ∀ place path, onLink place path ≠ .error .tooManyLinks →
          onLink' place path = onLink place path)
    {purpose : Purpose}
    (enough : t.stepThrough onLink purpose place path ≠ .error .tooManyLinks)
    : t.stepThrough onLink' purpose place path = t.stepThrough onLink purpose place path := by
  induction path generalizing place with
  | nil => rfl
  | cons step rest ih =>
    simp only [stepThrough] at enough ⊢
    split at enough
    next other => rw [if_pos other, if_pos other]
    next directory =>
    rw [if_neg directory, if_neg directory]
    cases step with
    | here | blank | up => exact ih enough
    | into n =>
      dsimp only at enough ⊢
      split at enough
      next refused => rw [if_pos refused, if_pos refused]
      next allowed =>
      rw [if_neg allowed, if_neg allowed]
      split at enough
      next long => rw [if_pos long, if_pos long]
      next short =>
      rw [if_neg short, if_neg short]
      generalize t.get? (n :: place) = entry at enough ⊢
      rcases entry with _ | _ | bytes | target
      case none => rfl
      case some.link =>
        dsimp only at enough ⊢
        split at enough
        next stops => rw [if_pos stops, if_pos stops]
        next goesOn =>
        rw [if_neg goesOn, if_neg goesOn]
        split at enough
        next empty => rw [if_pos empty, if_pos empty]
        next nonempty =>
          rw [if_neg nonempty, if_neg nonempty]
          exact links _ _ enough
      case some.directory | some.file =>
        dsimp only at enough ⊢
        split at enough
        next ends => rw [if_pos ends, if_pos ends]
        next goesOn =>
          rw [if_neg goesOn, if_neg goesOn]
          exact ih enough

/-- Steps that do not lead through too many links are followed alike if there may be more, by
induction on the links.
-/
theorem follow_more {purpose : Purpose} {links more : Nat} (le : links ≤ more)
    (enough : t.follow purpose links place path ≠ .error .tooManyLinks)
    : t.follow purpose more place path = t.follow purpose links place path := by
  rw [follow_eq] at enough ⊢
  rw [follow_eq]
  induction links generalizing more place path with
  | zero => exact stepThrough_more (fun _ _ enough => absurd rfl enough) enough
  | succ links ih =>
    obtain ⟨most, rfl⟩ := Nat.exists_eq_add_of_le' le
    refine stepThrough_more (fun place path enough => ?_) enough
    have same : t.followLink purpose (links + 1) = t.follow purpose links := rfl
    have same' : t.followLink purpose (most + (links + 1)) = t.follow purpose (most + links) := rfl
    rw [same, follow_eq] at enough ⊢
    rw [same', follow_eq]
    exact ih (Nat.le_add_left links most) enough

end Casebook.Tree
