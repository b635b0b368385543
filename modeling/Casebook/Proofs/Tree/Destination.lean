import Casebook.Proofs.Tree.Route

/-! The locations that paths lead to. They depend on the directories and links of a tree alone, so
a tree that has more directories and the same links leads every path that led somewhere to the
same location.
-/

namespace Casebook.Tree

/-- The location at which a path ends. -/
def Place.location : Place → Location
  | .entry location | .vacant location => location

/-- The location that a path leads to, whether something is there or not. -/
def destination? (t : Tree) (path : String) (purpose : Purpose := .find) : Option Location :=
  (t.locate path purpose).toOption.map Place.location

/-- The path can be followed at all: it is not empty, not too long, and has no NUL in it. -/
def IsPath (path : String) : Prop :=
  path.toList.contains '\x00' = false ∧ path.isEmpty = false
  ∧ path.utf8ByteSize ≤ maxPathBytes

/-- A path is located by the way of its steps from where it starts. -/
theorem locate_eq_ok_iff {t : Tree} {path : String} {purpose : Purpose} {found : Place}
    : t.locate path purpose = .ok found
      ↔ IsPath path
        ∧ t.Leads purpose maxLinks (startOf t.home path.toList) (steps path.toList) found := by
  unfold locate IsPath
  rw [← follow_eq_ok_iff]
  constructor
  · intro leads
    split at leads
    next => cases leads
    next noNul =>
    split at leads
    next => cases leads
    next nonempty =>
    split at leads
    next => cases leads
    next short =>
      exact ⟨⟨Bool.eq_false_iff.mpr noNul, Bool.eq_false_iff.mpr nonempty,
        Nat.le_of_not_lt short⟩, leads⟩
  · rintro ⟨⟨noNul, nonempty, short⟩, leads⟩
    rw [noNul, nonempty, if_neg Bool.false_ne_true, if_neg Bool.false_ne_true,
      if_neg (Nat.not_lt.mpr short)]
    exact leads

theorem destination?_eq_some_iff {t : Tree} {path : String} {purpose : Purpose} {q : Location}
    : t.destination? path purpose = some q
      ↔ ∃ found, t.locate path purpose = .ok found ∧ found.location = q := by
  unfold destination?
  cases t.locate path purpose with
  | error cause => simp [Except.toOption]
  | ok found => simp [Except.toOption]

/-- Nothing stands where a path ends at a missing entry, which is below the top. -/
theorem Leads.vacant_absent {t : Tree} {purpose : Purpose} {links : Nat} {place q : Location}
    {path : List Step} (leads : t.Leads purpose links place path (.vacant q))
    : t.get? q = none ∧ q ≠ [] := by
  generalize same : Place.vacant q = found at leads
  induction leads with
  | done => cases same
  | stay _ _ _ ih => exact ih same
  | up _ _ ih => exact ih same
  | down _ _ _ _ _ ih => exact ih same
  | link _ _ _ _ _ _ ih => exact ih same
  | entry => cases same
  | vacant _ _ _ absent =>
    cases same
    exact ⟨absent, List.cons_ne_nil _ _⟩

/-- What is looked up at a path, for any purpose, is what stands at its destination. -/
private theorem lookup_eq_ok_iff {t : Tree} {path : String} {purpose : Purpose} {q : Location}
    {entry : Entry}
    : (do
          match ← t.locate path purpose with
          | .vacant _ => .error .notFound
          | .entry place =>
            match t.get? place with
            | some entry => .ok (place, entry)
            | none => .error .notFound) = (.ok (q, entry) : Except IoError (Location × Entry))
      ↔ t.destination? path purpose = some q ∧ t.get? q = some entry := by
  rw [destination?_eq_some_iff]
  cases located : t.locate path purpose with
  | error cause => simp [bind, Except.bind]
  | ok found =>
    cases found with
    | vacant place =>
      have absent := (locate_eq_ok_iff.mp located).2.vacant_absent.1
      constructor
      · intro impossible
        cases impossible
      · rintro ⟨⟨_, ⟨⟩, rfl⟩, stands⟩
        rw [Place.location, absent] at stands
        cases stands
    | entry place =>
      simp only [bind, Except.bind, Except.ok.injEq, exists_eq_left', Place.location]
      constructor
      · intro found
        cases stands : t.get? place with
        | none => simp [stands] at found
        | some e =>
          simp only [stands, Except.ok.injEq, Prod.mk.injEq] at found
          obtain ⟨rfl, rfl⟩ := found
          exact ⟨rfl, stands⟩
      · rintro ⟨rfl, stands⟩
        rw [stands]

/-- What a path leads to is what stands at its destination. -/
theorem stat_eq_ok_iff {t : Tree} {path : String} {q : Location} {entry : Entry}
    : t.stat path = .ok (q, entry)
      ↔ t.destination? path = some q ∧ t.get? q = some entry :=
  lookup_eq_ok_iff

/-- What a path leads to, its last link not followed, is what stands at its destination. -/
theorem linkStat_eq_ok_iff {t : Tree} {path : String} {q : Location} {entry : Entry}
    : t.linkStat path = .ok (q, entry)
      ↔ t.destination? path .findLink = some q ∧ t.get? q = some entry :=
  lookup_eq_ok_iff

/-- Whoever does not follow a link at the end finds what one who follows it finds, or a link. By
induction on the way there.
-/
theorem Leads.findLink_of_find {t : Tree} {links : Nat} {place q : Location} {path : List Step}
    (leads : t.Leads .find links place path (.entry q))
    : ∃ q',
        t.Leads .findLink links place path (.entry q')
        ∧ (q' = q ∨ ∃ target, t.get? q' = some (.link target)) := by
  generalize same : Place.entry q = found at leads
  induction leads with
  | done =>
    cases same
    exact ⟨q, .done, .inl rfl⟩
  | stay directory stays _ ih =>
    obtain ⟨q', onward, ended⟩ := ih same
    exact ⟨q', .stay directory stays onward, ended⟩
  | up directory _ ih =>
    obtain ⟨q', onward, ended⟩ := ih same
    exact ⟨q', .up directory onward, ended⟩
  | down directory admitted goesOn below _ ih =>
    obtain ⟨q', onward, ended⟩ := ih same
    exact ⟨q', .down directory ⟨rfl, admitted.2⟩ goesOn below onward, ended⟩
  | @link _ place n rest _ _ directory admitted _ stands nonempty _ ih =>
    -- A link is what is found if it comes last.
    cases ends : Purpose.findLink.endsBefore rest with
    | true =>
      exact ⟨n :: place, .entry directory ⟨rfl, admitted.2⟩ ends stands nofun, .inr ⟨_, stands⟩⟩
    | false =>
      obtain ⟨q', onward, ended⟩ := ih same
      exact ⟨q', .link directory ⟨rfl, admitted.2⟩ (.inl ends) stands nonempty onward, ended⟩
  | entry directory admitted ends stands _ =>
    cases same
    refine ⟨_, ⟨.entry directory ⟨rfl, admitted.2⟩ ends stands fun follows => ?_, .inl rfl⟩⟩
    cases follows
  | vacant => cases same

/-- What a path leads to is found there also if a link at its end is not followed, unless there is
one.
-/
theorem linkStat_of_stat {t : Tree} {path : String} {q : Location} {entry : Entry}
    (found : t.stat path = .ok (q, entry))
    : t.linkStat path = .ok (q, entry)
      ∨ ∃ q' target, t.linkStat path = .ok (q', .link target) := by
  obtain ⟨leads, stands⟩ := stat_eq_ok_iff.mp found
  obtain ⟨ended, located, rfl⟩ := destination?_eq_some_iff.mp leads
  obtain ⟨isPath, way⟩ := locate_eq_ok_iff.mp located
  cases ended with
  | vacant place => exact absurd (way.vacant_absent.1.symm.trans stands) nofun
  | entry place =>
    obtain ⟨q', way', ended⟩ := way.findLink_of_find
    have leads' : t.destination? path .findLink = some q' :=
      destination?_eq_some_iff.mpr ⟨.entry q', locate_eq_ok_iff.mpr ⟨isPath, way'⟩, rfl⟩
    rcases ended with rfl | ⟨target, link⟩
    · exact .inl (linkStat_eq_ok_iff.mpr ⟨leads', stands⟩)
    · exact .inr ⟨q', target, linkStat_eq_ok_iff.mpr ⟨leads', link⟩⟩

/-- A symbolic link stands at the end of the path. -/
def isLink (t : Tree) (path : String) : Bool :=
  match t.linkStat path with
  | .ok (_, .link _) => true
  | _ => false

/-- Both paths lead to one entry. -/
def isSame (t : Tree) (path other : String) : Bool :=
  match t.stat path, t.stat other with
  | .ok (place, _), .ok (otherPlace, _) => place = otherPlace
  | _, _ => false

/-- A path leads to what another path leads to if it leads to where that stands. -/
theorem isSame_of_destination? {t : Tree} {path other : String} {q : Location} {entry : Entry}
    (leads : t.destination? path = some q) (found : t.stat other = .ok (q, entry))
    : t.isSame path other = true := by
  have stands := (stat_eq_ok_iff.mp found).2
  rw [isSame, stat_eq_ok_iff.mpr ⟨leads, stands⟩, found]
  exact decide_eq_true rfl

theorem stat_of_isSame {t : Tree} {path other : String} (same : t.isSame path other = true)
    : ∃ q entry, t.stat path = .ok (q, entry) ∧ t.stat other = .ok (q, entry) := by
  unfold isSame at same
  split at same
  next place entry otherPlace otherEntry found otherFound =>
    obtain rfl := of_decide_eq_true same
    obtain ⟨-, stands⟩ := stat_eq_ok_iff.mp found
    obtain ⟨leads, -⟩ := stat_eq_ok_iff.mp otherFound
    exact ⟨place, entry, found, stat_eq_ok_iff.mpr ⟨leads, stands⟩⟩
  next => cases same

theorem destination?_of_isSame {t : Tree} {path other : String}
    (same : t.isSame path other = true)
    : ∃ q, t.destination? path = some q ∧ t.destination? other = some q := by
  obtain ⟨q, entry, found, otherFound⟩ := stat_of_isSame same
  exact ⟨q, (stat_eq_ok_iff.mp found).1, (stat_eq_ok_iff.mp otherFound).1⟩

/-- Every way through the first tree is one through the second: it has the same links and at
least the same directories, and relative paths start from the same one.
-/
structure Widens (t t' : Tree) : Prop where
  home : t'.home = t.home
  directories : ∀ place, t.get? place = some .directory → t'.get? place = some .directory
  links : ∀ place target, t'.get? place = some (.link target) ↔ t.get? place = some (.link target)

/-- A way through a tree is one through a wider tree, by induction on it. What is found at the
last name may differ, but not where that is.
-/
theorem Widens.leads {t t' : Tree} (widens : t.Widens t') {purpose : Purpose} {links : Nat}
    {place : Location} {path : List Step} {found : Place}
    (leads : t.Leads purpose links place path found)
    : ∃ found', t'.Leads purpose links place path found' ∧ found'.location = found.location := by
  -- The end of a path, at a name that is no link to be followed.
  have ending {links place n rest} (directory : t.get? place = some .directory)
      (admitted : purpose.Admits n rest) (ends : purpose.endsBefore rest = true)
      (notFollowed
        : purpose.followsLast = true → ∀ target, t.get? (n :: place) ≠ some (.link target))
      : ∃ found',
          t'.Leads purpose links place (.into n :: rest) found'
          ∧ found'.location = n :: place := by
    have directory' := widens.directories place directory
    cases stands : t'.get? (n :: place) with
    | none => exact ⟨_, .vacant directory' admitted ends stands, rfl⟩
    | some e =>
      refine ⟨_, .entry directory' admitted ends stands ?_, rfl⟩
      rintro follows target rfl
      exact notFollowed follows target ((widens.links _ _).mp stands)
  induction leads with
  | done => exact ⟨_, .done, rfl⟩
  | stay directory stays _ ih =>
    obtain ⟨found', onward, same⟩ := ih
    exact ⟨found', .stay (widens.directories _ directory) stays onward, same⟩
  | up directory _ ih =>
    obtain ⟨found', onward, same⟩ := ih
    exact ⟨found', .up (widens.directories _ directory) onward, same⟩
  | down directory admitted goesOn below _ ih =>
    obtain ⟨found', onward, same⟩ := ih
    exact ⟨found', .down (widens.directories _ directory) admitted goesOn
      (widens.directories _ below) onward, same⟩
  | link directory admitted followed stands nonempty _ ih =>
    obtain ⟨found', onward, same⟩ := ih
    exact ⟨found', .link (widens.directories _ directory) admitted followed
      ((widens.links _ _).mpr stands) nonempty onward, same⟩
  | entry directory admitted ends stands notFollowed =>
    refine ending directory admitted ends fun follows target link => ?_
    exact notFollowed follows target (Option.some.inj (stands.symm.trans link))
  | vacant directory admitted ends absent =>
    refine ending directory admitted ends fun _ target link => ?_
    rw [absent] at link
    cases link

/-- In a wider tree a path that led somewhere leads to the same location. -/
theorem Widens.destination? {t t' : Tree} (widens : t.Widens t') {path : String}
    {purpose : Purpose} {q : Location} (leads : t.destination? path purpose = some q)
    : t'.destination? path purpose = some q := by
  obtain ⟨found, located, rfl⟩ := destination?_eq_some_iff.mp leads
  obtain ⟨isPath, way⟩ := locate_eq_ok_iff.mp located
  obtain ⟨found', way', same⟩ := widens.leads way
  refine destination?_eq_some_iff.mpr ⟨found', locate_eq_ok_iff.mpr ⟨isPath, ?_⟩, same⟩
  rw [widens.home]
  exact way'

end Casebook.Tree
