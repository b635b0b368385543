import Casebook.Proofs.Tree.Destination
import Casebook.Proofs.Tree.Insert

/-! What making directories changes in a tree. A directory is made only where nothing stood, and
its path leads to it from then on. What any path led to before is found there still.
-/

namespace Casebook.Tree

/-- The second tree is the first with some directories made where nothing stood. -/
structure DirectoriesMade (t t' : Tree) : Prop where
  home : t'.home = t.home
  medium : t'.medium = t.medium
  places : ∀ q, t'.get? q = t.get? q ∨ t.get? q = none ∧ t'.get? q = some .directory

/-- What stood in the tree stands there still. -/
theorem DirectoriesMade.get? {t t' : Tree} (made : t.DirectoriesMade t') {q : Location}
    {entry : Entry} (stands : t.get? q = some entry)
    : t'.get? q = some entry := by
  rcases made.places q with same | ⟨absent, _⟩
  · rw [same, stands]
  · rw [absent] at stands
    cases stands

/-- New directories stand in no path's way. -/
theorem DirectoriesMade.widens {t t' : Tree} (made : t.DirectoriesMade t')
    : t.Widens t' where
  home := made.home
  directories _ stands := made.get? stands
  links q target := by
    rcases made.places q with same | ⟨absent, stands⟩
    · rw [same]
    · rw [absent, stands]
      exact ⟨nofun, nofun⟩

/-- What a path leads to is found there when directories were made. -/
theorem DirectoriesMade.stat {t t' : Tree} (made : t.DirectoriesMade t') {path : String}
    {q : Location} {entry : Entry} (found : t.stat path = .ok (q, entry))
    : t'.stat path = .ok (q, entry) := by
  obtain ⟨leads, stands⟩ := stat_eq_ok_iff.mp found
  exact stat_eq_ok_iff.mpr ⟨made.widens.destination? leads, made.get? stands⟩

-----------------------------------------------------------------------------------------
-- One directory
-----------------------------------------------------------------------------------------

/-- Steps that stay lead to where they start. -/
theorem Leads.of_blank {t : Tree} {links : Nat} {place : Location} {path : List Step}
    (directory : t.get? place = some .directory) (blank : path.all (· = .blank) = true)
    : t.Leads .find links place path (.entry place) := by
  induction path with
  | nil => exact .done
  | cons step rest ih =>
    rw [List.all_cons, Bool.and_eq_true, decide_eq_true_eq] at blank
    exact .stay directory (.inr blank.1) (ih blank.2)

/-- Whoever looked for a place to make a directory finds it there once it is made, by induction on
the way there.
-/
theorem Leads.find_of_makeDirectory {t made : Tree} (widens : t.Widens made) {links : Nat}
    {place q : Location} {path : List Step}
    (leads : t.Leads .makeDirectory links place path (.vacant q))
    (stands : made.get? q = some .directory)
    : made.Leads .find links place path (.entry q) := by
  -- A name that another one follows is not the last one for whoever finds it either.
  have later {rest : List Step} (goesOn : Purpose.makeDirectory.endsBefore rest = false)
      : Purpose.find.endsBefore rest = false :=
    List.isEmpty_eq_false_iff.mpr (Purpose.ne_nil_of_goesOn goesOn)
  generalize same : Place.vacant q = found at leads
  induction leads with
  | done => cases same
  | stay directory stays _ ih => exact .stay (widens.directories _ directory) stays (ih same)
  | up directory _ ih => exact .up (widens.directories _ directory) (ih same)
  | down directory admitted goesOn below _ ih =>
    exact .down (widens.directories _ directory) ⟨rfl, admitted.2⟩ (later goesOn)
      (widens.directories _ below) (ih same)
  | link directory admitted followed link nonempty _ ih =>
    exact .link (widens.directories _ directory) ⟨rfl, admitted.2⟩ (.inr rfl)
      ((widens.links _ _).mpr link) nonempty (ih same)
  | entry => cases same
  | @vacant links place n rest directory admitted ends absent =>
    cases same
    have directory' := widens.directories _ directory
    -- Separators may follow the last name, and staying is all that they ask for.
    cases rest with
    | nil =>
      refine .entry directory' ⟨rfl, admitted.2⟩ rfl stands fun _ _ same => ?_
      cases same
    | cons next more =>
      exact .down directory' ⟨rfl, admitted.2⟩ rfl stands (.of_blank stands ends)

theorem directoriesMade_insert {t : Tree} {q : Location} (below : q ≠ [])
    (absent : t.get? q = none)
    : t.DirectoriesMade (t.insert q .directory) where
  home := home_insert t q _
  medium := medium_insert t q _
  places other := by
    rw [get?_insert below]
    by_cases same : other = q
    · rw [if_pos same, same]
      exact .inr ⟨absent, rfl⟩
    · rw [if_neg same]
      exact .inl rfl

/-- A directory is made where nothing stood, and its path leads to it afterwards. -/
theorem makeDirectory_eq_ok {t made : Tree} {path : String}
    (ok : t.makeDirectory path = .ok made)
    : t.DirectoriesMade made
      ∧ ∃ q,
          t.get? q = none
          ∧ made.stat path = .ok (q, .directory)
          ∧ ∀ other, other ≠ q → made.get? other = t.get? other := by
  unfold makeDirectory at ok
  cases located : t.locate path .makeDirectory with
  | error cause => simp [located, bind, Except.bind] at ok
  | ok found =>
    simp only [located, bind, Except.bind] at ok
    cases found with
    | entry place => cases ok
    | vacant q =>
      obtain ⟨isPath, way⟩ := locate_eq_ok_iff.mp located
      obtain ⟨absent, below⟩ := way.vacant_absent
      cases ok
      have made := directoriesMade_insert below absent
      have stands : (t.insert q .directory).get? q = some .directory :=
        (get?_insert below _ q).trans (if_pos rfl)
      refine ⟨made, q, absent, stat_eq_ok_iff.mpr ⟨?_, stands⟩, fun other apart => ?_⟩
      · refine destination?_eq_some_iff.mpr ⟨.entry q, locate_eq_ok_iff.mpr ⟨isPath, ?_⟩, rfl⟩
        rw [home_insert]
        exact way.find_of_makeDirectory made.widens stands
      · exact (get?_insert below _ other).trans (if_neg apart)

theorem isDirectory_iff {t : Tree} {path : String}
    : t.isDirectory path = true ↔ ∃ q, t.stat path = .ok (q, .directory) := by
  unfold isDirectory
  split
  next q found => exact ⟨fun _ => ⟨q, found⟩, fun _ => rfl⟩
  next other =>
    refine ⟨nofun, fun ⟨q, found⟩ => ?_⟩
    exact absurd found (other q)

-----------------------------------------------------------------------------------------
-- A directory and those above it
-----------------------------------------------------------------------------------------

/-- The second tree is the first with directories made where nothing stood, and one of the paths
leads to each of them.
-/
structure MadeAlong (t : Tree) (paths : List String) (t' : Tree) : Prop where
  home : t'.home = t.home
  medium : t'.medium = t.medium
  places
    : ∀ q,
        t'.get? q = t.get? q
        ∨ t.get? q = none ∧ ∃ path ∈ paths, t'.stat path = .ok (q, .directory)

theorem MadeAlong.refl (t : Tree) (paths : List String) : t.MadeAlong paths t :=
  ⟨rfl, rfl, fun _ => .inl rfl⟩

theorem MadeAlong.directoriesMade {t t' : Tree} {paths : List String}
    (made : t.MadeAlong paths t')
    : t.DirectoriesMade t' where
  home := made.home
  medium := made.medium
  places q := by
    rcases made.places q with same | ⟨absent, path, -, found⟩
    · exact .inl same
    · exact .inr ⟨absent, (stat_eq_ok_iff.mp found).2⟩

/-- A directory that is made once those above it are: all of them stand at paths of the list. -/
theorem MadeAlong.makeDirectory {t t' t'' : Tree} {path : String} {above : List String}
    (made : t.MadeAlong above t') (ok : t'.makeDirectory path = .ok t'')
    : t.MadeAlong (path :: above) t'' := by
  obtain ⟨last, q, absent, found, elsewhere⟩ := makeDirectory_eq_ok ok
  refine ⟨last.home.trans made.home, last.medium.trans made.medium, fun other => ?_⟩
  by_cases here : other = q
  · -- Nothing stood there before the last step, so nothing stood there at the start.
    subst here
    refine .inr ⟨?_, path, List.mem_cons_self, found⟩
    rcases made.places other with same | ⟨absent', _⟩
    · exact same.symm.trans absent
    · exact absent'
  · rw [elsewhere other here]
    rcases made.places other with same | ⟨absent', path', listed, found'⟩
    · exact .inl same
    · exact .inr ⟨absent', path', List.mem_cons_of_mem path listed, last.stat found'⟩

theorem MadeAlong.cons {t t' : Tree} {above : List String} (made : t.MadeAlong above t')
    (path : String)
    : t.MadeAlong (path :: above) t' where
  home := made.home
  medium := made.medium
  places q := by
    rcases made.places q with same | ⟨absent, path', listed, found⟩
    · exact .inl same
    · exact .inr ⟨absent, path', List.mem_cons_of_mem path listed, found⟩

/-- Whether all directories of a list can be made or not, those that are made stand at paths of
the list. By induction on the list.
-/
theorem makeDirectoriesAlong_madeAlong (t : Tree) (paths : List String)
    : t.MadeAlong paths (t.makeDirectoriesAlong paths).2 := by
  induction paths with
  | nil => exact .refl t []
  | cons path above ih =>
    unfold makeDirectoriesAlong
    split
    next => exact .refl t _
    next =>
      split
      next made ok => exact (MadeAlong.refl t above).makeDirectory ok
      next =>
        split
        next outcome => rw [outcome] at ih; exact ih.cons path
        next rest outcome =>
          rw [outcome] at ih
          split
          next made ok => exact ih.makeDirectory ok
          next => split <;> exact ih.cons path
      next => split <;> exact .refl t _

/-- Where all directories of a list can be made, its first path leads to a directory afterwards,
unless it is empty.
-/
theorem isDirectory_of_makeDirectoriesAlong {t : Tree} {path : String} {above : List String}
    (ok : (t.makeDirectoriesAlong (path :: above)).1 = .ok ()) (nonempty : path.isEmpty = false)
    : (t.makeDirectoriesAlong (path :: above)).2.isDirectory path = true := by
  have found {t made : Tree} (ok : t.makeDirectory path = .ok made)
      : made.isDirectory path = true := by
    obtain ⟨-, q, -, found, -⟩ := makeDirectory_eq_ok ok
    exact isDirectory_iff.mpr ⟨q, found⟩
  unfold makeDirectoriesAlong at ok ⊢
  rw [nonempty, if_neg Bool.false_ne_true] at ok ⊢
  split at ok
  next made wasMade => exact found wasMade
  next =>
    split at ok
    next => cases ok
    next rest _ =>
      split at ok
      next made wasMade => exact found wasMade
      next =>
        split at ok
        next there => rw [if_pos there]; exact there
        next => cases ok
  next =>
    split at ok
    next there => rw [if_pos there]; exact there
    next => cases ok

end Casebook.Tree
