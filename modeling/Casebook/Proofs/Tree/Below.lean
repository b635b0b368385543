import Mathlib.Data.List.Induction
import Casebook.Proofs.Path.Below
import Casebook.Proofs.Tree.Copied
import Casebook.Proofs.Tree.Descent

/-! What names lead to below a root. They are followed from the directory that the root leads to,
and so they lead to the same in all copies of a tree, unless a limit of the system stops them.
-/

namespace Casebook.Tree

variable {D t t' : Tree} {root root' : String} {top top' place : Location} {links : Nat}
  {names : List Name}

-----------------------------------------------------------------------------------------
-- Paths
-----------------------------------------------------------------------------------------

theorem below_concat (root : String) (names : List Name) (n : Name)
    : Path.below root (names ++ [n]) = Path.join (Path.below root names) n.text :=
  List.foldl_concat _ _ _ _

/-- A path below a directory does not end with a separator. -/
theorem getLast?_join (directory : String) (n : Name)
    : (Path.join directory n.text).toList.getLast? ≠ some '/' := by
  obtain ⟨front, joined⟩ := Path.exists_front directory
  rw [joined n.text (Path.head?_ne_separator n), String.toList_append,
    List.getLast?_append_of_ne_nil _ (Path.name_ne n).1]
  exact fun last => n.separator_not_mem (List.mem_of_getLast? last)

/-- Names below a root are in a path where the root is, by induction on them from the last one. -/
theorem below_isPath (noNul : root.toList.contains '\x00' = false)
    (nonempty : root.isEmpty = false) (base : Location) (names : List Name)
    : (Path.below root names).toList.contains '\x00' = false
      ∧ (Path.below root names).isEmpty = false
      ∧ startOf base (Path.below root names).toList = startOf base root.toList := by
  induction names using List.reverseRecOn with
  | nil => exact ⟨noNul, nonempty, rfl⟩
  | append_singleton names n ih =>
    obtain ⟨noNul, nonempty, start⟩ := ih
    rw [below_concat, startOf_join base n nonempty, start]
    exact ⟨(noNul_join n noNul nonempty).1, (noNul_join n noNul nonempty).2, rfl⟩

/-- A path of names below a root makes the steps of the root, without a separator that ends them,
and then the steps into the names. By induction on them from the last one.
-/
theorem exists_steps_below (nonempty : root.isEmpty = false)
    (noNul : root.toList.contains '\x00' = false)
    : ∃ front blanks : List Step,
        steps root.toList = front ++ blanks
        ∧ blanks.all (· = .blank) = true
        ∧ ∀ names ≠ [], steps (Path.below root names).toList = front ++ names.map .into := by
  obtain ⟨front, blanks, same, blank, join⟩ := exists_steps_join nonempty
  refine ⟨front, blanks, same, blank, fun names some => ?_⟩
  induction names using List.reverseRecOn with
  | nil => exact absurd rfl some
  | append_singleton names n ih =>
    rw [below_concat]
    rcases names.eq_nil_or_concat' with rfl | ⟨above, m, rfl⟩
    · exact join n
    · have inside := (below_isPath noNul nonempty [] (above ++ [m])).2.1
      have noSlash := getLast?_join (Path.below root above) m
      rw [← below_concat] at noSlash
      rw [steps_join n inside noSlash, ih (by simp)]
      simp only [List.map_append, List.map_singleton, List.append_assoc]

-----------------------------------------------------------------------------------------
-- What names lead to
-----------------------------------------------------------------------------------------

/-- What stands where a way has led to. -/
def standing (t : Tree) : Place → Except IoError (Location × Entry)
  | .vacant _ => .error .notFound
  | .entry place =>
    match t.get? place with
    | some entry => .ok (place, entry)
    | none => .error .notFound

/-- What names lead to from the top of a tree through at most so many links. -/
def reach (D : Tree) (links : Nat) (names : List Name) : Except IoError (Location × Entry) :=
  D.follow .find links [] (names.map .into) >>= D.standing

/-- What names lead to is where their way ends. -/
theorem leads_of_reach {entry : Entry} (reached : D.reach links names = .ok (place, entry))
    : D.Leads .find links [] (names.map .into) (.entry place) := by
  unfold reach at reached
  rw [← follow_eq_ok_iff]
  rcases followed : D.follow .find links [] (names.map .into) with cause | q | q
  · rw [followed] at reached
    cases reached
  · rw [followed] at reached
    simp only [bind, Except.bind, standing] at reached
    split at reached
    next =>
      cases reached
      rfl
    next => cases reached
  · rw [followed] at reached
    cases reached

/-- A root leads to a directory, where a copy of the tree stands. -/
structure CopyAt (D t : Tree) (root : String) (top : Location) : Prop where
  found : t.stat root = .ok (top, .directory)
  stands : D.StandsAt t top

/-- A limit of the system stops the path: it is too long or leads through too many links. -/
def IsStopped (t : Tree) (path : String) : Prop :=
  t.stat path = .error .nameTooLong ∨ t.stat path = .error .tooManyLinks

theorem not_isStopped {path : String} (leads : t.pathExists path = true)
    : ¬ t.IsStopped path := by
  rintro (stopped | stopped) <;>
    rw [pathExists, stopped] at leads <;>
    cases leads

/-- The names lead to an entry of the tree, the last one from the directory that the others lead to,
through however many links.
-/
def Holds (D : Tree) (names : List Name) : Prop :=
  ∃ above n place links,
    names = above ++ [n]
    ∧ D.reach links above = .ok (place, .directory)
    ∧ D.get? (n :: place) ≠ none

/-- All names below a root are followed from the directory that the root leads to, with the links
that are left there.
-/
theorem exists_stat_below (found : t.stat root = .ok (place, .directory))
    : ∃ links,
        ∀ names ≠ [],
          t.stat (Path.below root names)
          = if (Path.below root names).utf8ByteSize > maxPathBytes then .error .nameTooLong
            else t.follow .find links place (names.map .into) >>= t.standing := by
  obtain ⟨leads, isDirectory⟩ := stat_eq_ok_iff.mp found
  obtain ⟨ended, located, rfl⟩ := destination?_eq_some_iff.mp leads
  obtain ⟨⟨noNul, nonempty, -⟩, way⟩ := locate_eq_ok_iff.mp located
  cases ended with
  | vacant place => exact absurd (way.vacant_absent.1.symm.trans isDirectory) nofun
  | entry place =>
    obtain ⟨front, blanks, same, blank, stepsBelow⟩ := exists_steps_below nonempty noNul
    rw [same] at way
    obtain ⟨fewer, onward⟩ := way.exists_follow_append blank isDirectory
    refine ⟨fewer, fun names some => ?_⟩
    obtain ⟨noNul', nonempty', start⟩ := below_isPath noNul nonempty t.home names
    rw [stat, locate, noNul', nonempty', start, stepsBelow names some,
      onward _ (mt List.map_eq_nil_iff.mp some)]
    simp only [Bool.false_eq_true, if_false]
    split <;> rfl

/-- Names lead to the same in a tree and in a copy of it, but for what the path and the links to its
root add to the limits.
-/
theorem CopyAt.exists_stat_below (copy : D.CopyAt t root top) (closed : D.Closed)
    : ∃ links,
        ∀ names ≠ [],
          t.stat (Path.below root names)
          = if (Path.below root names).utf8ByteSize > maxPathBytes then .error .nameTooLong
            else (D.reach links names).map fun found => (found.1 ++ top, found.2) := by
  obtain ⟨links, followed⟩ := Tree.exists_stat_below copy.found
  refine ⟨links, fun names some => (followed names some).trans ?_⟩
  have same := follow_copied copy.stands .find links (closed.not_leaves [] names)
  rw [List.nil_append] at same
  rw [same, reach]
  rcases D.follow .find links [] (names.map .into) with cause | place | place
  · rfl
  · simp only [Except.map, bind, Except.bind, Place.under, standing, copy.stands place]
    cases D.get? place <;> rfl
  · rfl

/-- Links that are not needed change nothing about what names lead to. -/
theorem reach_more {more : Nat} (le : links ≤ more)
    (enough : D.reach links names ≠ .error .tooManyLinks)
    : D.reach more names = D.reach links names := by
  unfold reach at enough ⊢
  rw [follow_more le]
  intro tooMany
  rw [tooMany] at enough
  exact enough rfl

/-- Where no limit stops a path, it leads to what the names lead to. -/
theorem of_not_isStopped
    (found
      : t.stat (Path.below root names)
        = if (Path.below root names).utf8ByteSize > maxPathBytes then .error .nameTooLong
          else (D.reach links names).map fun found => (found.1 ++ top, found.2))
    (free : ¬ t.IsStopped (Path.below root names))
    : t.stat (Path.below root names)
        = (D.reach links names).map (fun found => (found.1 ++ top, found.2))
      ∧ D.reach links names ≠ .error .tooManyLinks := by
  unfold IsStopped at free
  rw [found] at free ⊢
  split at free
  next => exact absurd (.inl rfl) free
  next fits =>
    refine ⟨if_neg fits, fun tooMany => free (.inr ?_)⟩
    rw [tooMany]
    rfl

/-- Names that the limits of the system stop in both copies of a tree or in none lead to the same in
both.
-/
theorem CopyAt.stat_below (copy : D.CopyAt t root top) (copy' : D.CopyAt t' root' top')
    (closed : D.Closed) (some : names ≠ [])
    (limits
      : t.IsStopped (Path.below root names) ↔ t'.IsStopped (Path.below root' names))
    : (∃ cause cause',
          t.stat (Path.below root names) = .error cause
          ∧ t'.stat (Path.below root' names) = .error cause')
      ∨ ∃ place entry links,
          t.stat (Path.below root names) = .ok (place ++ top, entry)
          ∧ t'.stat (Path.below root' names) = .ok (place ++ top', entry)
          ∧ D.reach links names = .ok (place, entry) := by
  by_cases stopped : t.IsStopped (Path.below root names)
  · have stopped' := limits.mp stopped
    left
    rcases stopped with first | first <;> rcases stopped' with second | second <;>
      exact ⟨_, _, first, second⟩
  · have stopped' := mt limits.mpr stopped
    obtain ⟨links, found⟩ := copy.exists_stat_below closed
    obtain ⟨links', found'⟩ := copy'.exists_stat_below closed
    obtain ⟨sameStat, enough⟩ := of_not_isStopped (found names some) stopped
    obtain ⟨sameStat', enough'⟩ := of_not_isStopped (found' names some) stopped'
    -- Whichever root leaves fewer links, they are enough.
    have same : D.reach links' names = D.reach links names := by
      rcases Nat.le_total links links' with le | le
      · exact reach_more le enough
      · exact (reach_more le enough').symm
    rw [sameStat, sameStat', same]
    rcases reached : D.reach links names with cause | ⟨place, entry⟩
    · exact .inl ⟨cause, cause, rfl, rfl⟩
    · exact .inr ⟨place, entry, links, rfl, rfl, reached⟩

end Casebook.Tree
