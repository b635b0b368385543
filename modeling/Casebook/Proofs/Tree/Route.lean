import Casebook.Tree.File

/-! The way of a path through a tree, as a relation with one rule for every kind of step. Only
directories and links send a path on, so two trees that agree on them lead every path to the same
location, whatever files they hold.
-/

namespace Casebook.Tree

/-- A step to a name may be taken: the name is not too long, and no separator that the path's
purpose forbids comes behind it.
-/
def Purpose.Admits (purpose : Purpose) (n : Name) (rest : List Step) : Prop :=
  purpose.refuses rest = false ∧ n.text.utf8ByteSize ≤ maxNameBytes

/-- Behind a name that is not the last one of its path there are steps. -/
theorem Purpose.ne_nil_of_goesOn {purpose : Purpose} {rest : List Step}
    (goesOn : purpose.endsBefore rest = false)
    : rest ≠ [] := by
  rintro rfl
  cases purpose <;> cases goesOn

/-- Steps from a location lead to a place through at most a number of links. -/
inductive Leads (t : Tree) (purpose : Purpose) : Nat → Location → List Step → Place → Prop
  | done {links place} : t.Leads purpose links place [] (.entry place)
  | stay {links place step rest found} (directory : t.get? place = some .directory)
    (stays : step = .here ∨ step = .blank) (onward : t.Leads purpose links place rest found)
    : t.Leads purpose links place (step :: rest) found
  | up {links place rest found} (directory : t.get? place = some .directory)
    (onward : t.Leads purpose links place.tail rest found)
    : t.Leads purpose links place (.up :: rest) found
  | down {links place n rest found} (directory : t.get? place = some .directory)
    (admitted : purpose.Admits n rest) (goesOn : purpose.endsBefore rest = false)
    (below : t.get? (n :: place) = some .directory)
    (onward : t.Leads purpose links (n :: place) rest found)
    : t.Leads purpose links place (.into n :: rest) found
  | link {links place n rest target found} (directory : t.get? place = some .directory)
    (admitted : purpose.Admits n rest)
    (followed : purpose.endsBefore rest = false ∨ purpose.followsLast = true)
    (stands : t.get? (n :: place) = some (.link target)) (nonempty : target.isEmpty = false)
    (onward
      : t.Leads purpose links (startOf place target.toList) (steps target.toList ++ rest) found)
    : t.Leads purpose (links + 1) place (.into n :: rest) found
  | entry {links place n rest e} (directory : t.get? place = some .directory)
    (admitted : purpose.Admits n rest) (ends : purpose.endsBefore rest = true)
    (stands : t.get? (n :: place) = some e)
    (notFollowed : purpose.followsLast = true → ∀ target, e ≠ .link target)
    : t.Leads purpose links place (.into n :: rest) (.entry (n :: place))
  | vacant {links place n rest} (directory : t.get? place = some .directory)
    (admitted : purpose.Admits n rest) (ends : purpose.endsBefore rest = true)
    (absent : t.get? (n :: place) = none)
    : t.Leads purpose links place (.into n :: rest) (.vacant (n :: place))

/-- What happens at a link while at most so many may still be followed. -/
def followLink (t : Tree) (purpose : Purpose) : Nat → Location → List Step → Except IoError Place
  | 0 => fun _ _ => .error .tooManyLinks
  | links + 1 => t.follow purpose links

theorem follow_eq (t : Tree) (purpose : Purpose) (links : Nat)
    : t.follow purpose links = t.stepThrough (t.followLink purpose links) purpose := by
  cases links <;> rfl

/-- A step that leads on is taken from a directory. -/
theorem stepThrough_cons {t : Tree} {onLink : Location → List Step → Except IoError Place}
    {purpose : Purpose} {place : Location} {step : Step} {rest : List Step} {found : Place}
    (leads : t.stepThrough onLink purpose place (step :: rest) = .ok found)
    : t.get? place = some .directory := by
  refine Decidable.byContradiction fun other => ?_
  simp only [stepThrough, ne_eq, other, not_false_eq_true, if_true] at leads
  cases leads

/-- Steps that are followed to a place lead there, by induction on them, if they do so behind the
first link that is followed.
-/
theorem leads_of_stepThrough {t : Tree} {purpose : Purpose} {links : Nat} {found : Place}
    (onward
      : ∀ place path, t.followLink purpose links place path = .ok found →
          ∃ fewer, links = fewer + 1 ∧ t.Leads purpose fewer place path found)
    {place : Location} {path : List Step}
    (leads : t.stepThrough (t.followLink purpose links) purpose place path = .ok found)
    : t.Leads purpose links place path found := by
  induction path generalizing place with
  | nil =>
    cases leads
    exact .done
  | cons step rest ih =>
    have directory := stepThrough_cons leads
    simp only [stepThrough, directory, ne_eq, not_true_eq_false, if_false] at leads
    cases step with
    | here => exact .stay directory (.inl rfl) (ih leads)
    | blank => exact .stay directory (.inr rfl) (ih leads)
    | up => exact .up directory (ih leads)
    | into n =>
      dsimp only at leads
      split at leads
      next => cases leads
      next allowed =>
      split at leads
      next => cases leads
      next short =>
      have admitted : purpose.Admits n rest := ⟨Bool.eq_false_iff.mpr allowed, Nat.le_of_not_lt short⟩
      cases stands : t.get? (n :: place) with
      | none =>
        simp only [stands] at leads
        split at leads
        next ends =>
          cases leads
          exact .vacant directory admitted ends stands
        next => cases leads
      | some e =>
        simp only [stands] at leads
        cases e with
        | link target =>
          dsimp only at leads
          split at leads
          next stops =>
            rw [Bool.and_eq_true, Bool.not_eq_true'] at stops
            cases leads
            exact .entry directory admitted stops.1 stands
              fun follows => absurd (stops.2.symm.trans follows) Bool.false_ne_true
          next goesOn =>
            split at leads
            next => cases leads
            next nonempty =>
              obtain ⟨fewer, rfl, later⟩ := onward _ _ leads
              rw [Bool.not_eq_true, Bool.and_eq_false_iff, Bool.not_eq_false'] at goesOn
              exact .link directory admitted goesOn stands (Bool.eq_false_iff.mpr nonempty) later
        | directory =>
          dsimp only at leads
          split at leads
          next ends =>
            cases leads
            refine .entry directory admitted ends stands fun _ _ same => ?_
            cases same
          next goesOn =>
            exact .down directory admitted (Bool.eq_false_iff.mpr goesOn) stands (ih leads)
        | file bytes =>
          dsimp only at leads
          split at leads
          next ends =>
            cases leads
            refine .entry directory admitted ends stands fun _ _ same => ?_
            cases same
          next goesOn =>
            -- No path goes on from a file.
            obtain ⟨next, more, rfl⟩ :=
              List.exists_cons_of_ne_nil (Purpose.ne_nil_of_goesOn (Bool.eq_false_iff.mpr goesOn))
            rw [stepThrough_cons leads] at stands
            cases stands

/-- Steps that are followed to a place lead there, by induction on how many links may be followed.
-/
theorem leads_of_follow {t : Tree} {purpose : Purpose} {links : Nat} {place : Location}
    {path : List Step} {found : Place} (leads : t.follow purpose links place path = .ok found)
    : t.Leads purpose links place path found := by
  induction links generalizing place path with
  | zero =>
    refine leads_of_stepThrough (fun _ _ impossible => ?_) (follow_eq t purpose 0 ▸ leads)
    cases impossible
  | succ links ih =>
    exact leads_of_stepThrough (fun _ _ onward => ⟨links, rfl, ih onward⟩)
      (follow_eq t purpose (links + 1) ▸ leads)

/-- Steps that lead to a place are followed to it, by induction on the way. -/
theorem Leads.follow_eq_ok {t : Tree} {purpose : Purpose} {links : Nat} {place : Location}
    {path : List Step} {found : Place} (leads : t.Leads purpose links place path found)
    : t.follow purpose links place path = .ok found := by
  induction leads with
  | done =>
    rw [follow_eq]
    rfl
  | stay directory stays _ ih =>
    rw [follow_eq] at ih ⊢
    rcases stays with rfl | rfl <;>
      simpa only [stepThrough, directory, ne_eq, not_true_eq_false, if_false] using ih
  | up directory _ ih =>
    rw [follow_eq] at ih ⊢
    simpa only [stepThrough, directory, ne_eq, not_true_eq_false, if_false] using ih
  | down directory admitted goesOn below _ ih =>
    rw [follow_eq] at ih ⊢
    simpa only [stepThrough, directory, admitted.1, Nat.not_lt.mpr admitted.2, goesOn, below,
      ne_eq, not_true_eq_false, if_false, Bool.false_eq_true] using ih
  | @link links place n rest target found directory admitted followed stands nonempty _ ih =>
    have goesOn : (purpose.endsBefore rest && !purpose.followsLast) = false := by
      rcases followed with later | follows
      · rw [later, Bool.false_and]
      · rw [follows, Bool.not_true, Bool.and_false]
    rw [follow_eq]
    simpa only [stepThrough, followLink, directory, admitted.1, Nat.not_lt.mpr admitted.2, stands,
      goesOn, nonempty, ne_eq, not_true_eq_false, if_false, Bool.false_eq_true] using ih
  | @entry links place n rest e directory admitted ends stands notFollowed =>
    rw [follow_eq]
    simp only [stepThrough, directory, admitted.1, Nat.not_lt.mpr admitted.2, stands, ends,
      ne_eq, not_true_eq_false, if_false, Bool.false_eq_true, Bool.true_and]
    cases e with
    | directory => rfl
    | file bytes => rfl
    | link target =>
      have stops : purpose.followsLast = false :=
        Bool.eq_false_iff.mpr fun follows => notFollowed follows target rfl
      simp only [stops, Bool.not_false, if_true]
  | vacant directory admitted ends absent =>
    rw [follow_eq]
    simp only [stepThrough, directory, admitted.1, Nat.not_lt.mpr admitted.2, absent, ends,
      ne_eq, not_true_eq_false, if_false, Bool.false_eq_true, if_true]

/-- Following steps and their way through the tree are the same. -/
theorem follow_eq_ok_iff {t : Tree} {purpose : Purpose} {links : Nat} {place : Location}
    {path : List Step} {found : Place}
    : t.follow purpose links place path = .ok found
      ↔ t.Leads purpose links place path found :=
  ⟨leads_of_follow, Leads.follow_eq_ok⟩

end Casebook.Tree
