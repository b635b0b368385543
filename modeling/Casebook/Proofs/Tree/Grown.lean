import Casebook.Proofs.Tree.Descent
import Casebook.Proofs.Tree.Make
import Casebook.Proofs.Tree.Write

/-! Trees that have grown. What stood in a tree before stands where it stood, though files may hold
something else. A path that led somewhere leads there still; one that failed may lead somewhere now.
-/

namespace Casebook.Tree

/-- The second tree is the first with some directories made where nothing stood and some files
written where nothing or a file stood.
-/
structure Grown (t t' : Tree) : Prop where
  home : t'.home = t.home
  places
    : ∀ q,
        t'.get? q = t.get? q
        ∨ (t.get? q = none ∧ t'.get? q = some .directory)
        ∨ t.IsFree q ∧ ∃ bytes, t'.get? q = some (.file bytes)

/-- A path leads to the same location in both trees, or fails in the same way. -/
def LeadsAlike (t t' : Tree) (path : String) : Prop :=
  (t'.stat path).map Prod.fst = (t.stat path).map Prod.fst

/-- A tree grows when directories are made in it and then files written. -/
theorem DirectoriesMade.grown {t made t' : Tree} (directories : t.DirectoriesMade made)
    (written : made.FilesWritten t')
    : t.Grown t' where
  home := written.home.trans directories.home
  places q := by
    rcases written.places q with same | ⟨free, file⟩
    · rw [same]
      exact (directories.places q).imp_right .inl
    · exact .inr (.inr ⟨fun entry stands => free entry (directories.get? stands), file⟩)

namespace Grown

variable {t t' : Tree} {q place : Location} {n : Name} {path : String} {entry : Entry}

/-- What stood in the tree stands there still, or is a file with other bytes. -/
theorem get?_or (grown : t.Grown t') (stands : t.get? q = some entry)
    : t'.get? q = some entry
      ∨ ∃ bytes bytes', entry = .file bytes ∧ t'.get? q = some (.file bytes') := by
  rcases grown.places q with same | ⟨absent, -⟩ | ⟨free, bytes', file⟩
  · exact .inl (same.trans stands)
  · cases absent.symm.trans stands
  · obtain ⟨bytes, isFile⟩ := free entry stands
    exact .inr ⟨bytes, bytes', isFile, file⟩

/-- Links are neither made nor replaced. -/
theorem get?_link_iff (grown : t.Grown t') {target : String}
    : t'.get? q = some (.link target) ↔ t.get? q = some (.link target) := by
  constructor
  · intro stands
    rcases grown.places q with same | ⟨-, directory⟩ | ⟨-, bytes, file⟩
    · exact same.symm.trans stands
    · cases directory.symm.trans stands
    · cases file.symm.trans stands
  · intro stands
    rcases grown.get?_or stands with same | ⟨bytes, -, isFile, -⟩
    · exact same
    · cases isFile

theorem get?_directory (grown : t.Grown t') (stands : t.get? q = some .directory)
    : t'.get? q = some .directory := by
  rcases grown.get?_or stands with same | ⟨bytes, -, isFile, -⟩
  · exact same
  · cases isFile

theorem widens (grown : t.Grown t')
    : t.Widens t' where
  home := grown.home
  directories _ := grown.get?_directory
  links _ _ := grown.get?_link_iff

theorem stat_directory (grown : t.Grown t') (found : t.stat path = .ok (q, .directory))
    : t'.stat path = .ok (q, .directory) := by
  obtain ⟨leads, stands⟩ := stat_eq_ok_iff.mp found
  exact stat_eq_ok_iff.mpr ⟨grown.widens.destination? leads, grown.get?_directory stands⟩

/-- What stands unchanged below a directory is found there alike, unless it is a link. -/
theorem stat_join (grown : t.Grown t') (found : t.stat path = .ok (place, .directory))
    (same : t'.get? (n :: place) = t.get? (n :: place)) (stands : t.get? (n :: place) = some entry)
    (noLink : ∀ target, entry ≠ .link target)
    : t'.stat (Path.join path n.text) = t.stat (Path.join path n.text) := by
  rw [stat_join_eq_ite found stands noLink,
    stat_join_eq_ite (grown.stat_directory found) (same.trans stands) noLink]

end Grown

end Casebook.Tree
