import Casebook.Proofs.Walk.Congruence
import Casebook.Proofs.Walk.Listed

/-! Entries that cannot be read. A walk that skips them complains of each, and lists what another
walk lists exactly if there are none.
-/

namespace Casebook

/-- A text begins with another one. -/
def Text.BeginsWith (text front : String) : Prop :=
  front.toList <+: text.toList

theorem Text.beginsWith_append (front rest : String)
    : Text.BeginsWith (front ++ rest) front := by
  rw [Text.BeginsWith, String.toList_append]
  exact List.prefix_append _ _

theorem Text.BeginsWith.append {text front : String} (begins : Text.BeginsWith text front)
    (more : String)
    : Text.BeginsWith (text ++ more) front := by
  rw [Text.BeginsWith, String.toList_append]
  exact begins.trans (List.prefix_append _ _)

/-- A text begins with only one of two texts of which neither begins with the other. -/
theorem Text.BeginsWith.unlike {text a b : String} (begins : Text.BeginsWith text a)
    (unlike : ¬ a.toList <+: b.toList ∧ ¬ b.toList <+: a.toList)
    : ¬ Text.BeginsWith text b :=
  fun other => (List.prefix_or_prefix_of_prefix begins other).elim unlike.1 unlike.2

namespace Walker

/-- The complaints of a walk, about entries that it could not read or not find. -/
def IsComplaint (text : String) : Prop :=
  Text.BeginsWith text "Scan error: " ∨ Text.BeginsWith text "Cannot stat "

variable {w : Walker} {t : Tree} {root : String} {listing : Listing} {failure : Failure}

/-- The walk meets an entry that it cannot read, with the cause that is told of it: the entry cannot
be read at all, it is a link to a directory on the way to it, or it is a file without a size.
-/
inductive CannotRead (w : Walker) (t : Tree) (root : String) : String → IoError → Prop
  | entry {path cause} (met : .unreadable path cause ∈ w.visits t root)
    : w.CannotRead t root path cause
  | loop {path ancestor} (met : .loop path ancestor ∈ w.visits t root)
    : w.CannotRead t root path .linkLoop
  | file {path relativePath cause} (met : .file path relativePath ∈ w.visits t root)
    (unread : t.stat path = .error cause)
    : w.CannotRead t root path cause

theorem unread_of_judgeFile {rootIsDirectory : Bool} {path relativePath : String}
    (failed : (w.judgeFile t rootIsDirectory path relativePath).failure? = some failure)
    : ∃ cause, t.stat path = .error cause ∧ failure = .unreadableInput path cause := by
  unfold judgeFile at failed
  split at failed
  next => cases failed
  next =>
    split at failed
    next => cases failed
    next => cases failed
    next cause unread =>
      cases failed
      exact ⟨cause, unread, rfl⟩

/-- The verdict on what a walk meets fails because it cannot be read. -/
theorem cannotRead_of_judge {rootIsDirectory : Bool} {visit : Visit}
    (met : visit ∈ w.visits t root)
    (failed : (w.judge t rootIsDirectory visit).failure? = some failure)
    : ∃ path cause, w.CannotRead t root path cause ∧ failure = .unreadableInput path cause := by
  cases visit with
  | directory => cases failed
  | file path relativePath =>
    obtain ⟨cause, unread, rfl⟩ := unread_of_judgeFile failed
    exact ⟨path, cause, .file met unread, rfl⟩
  | link path relativePath =>
    rw [judge] at failed
    split at failed
    next isFile =>
      obtain ⟨cause, unread, -⟩ := unread_of_judgeFile failed
      rw [Tree.isFile, unread] at isFile
      cases isFile
    next => cases failed
  | unreadable path cause =>
    cases failed
    exact ⟨path, cause, .entry met, rfl⟩
  | loop path ancestor =>
    cases failed
    exact ⟨path, .linkLoop, .loop met, rfl⟩

/-- A walk fails because of its root, or unless it skips them because of an entry that it cannot
read.
-/
theorem list_eq_error (failed : w.list t root = .error failure)
    : (∃ cause, t.stat root = .error cause ∧ failure = .unreadableInput root cause)
      ∨ w.skipUnreadable = false
        ∧ ∃ path cause,
            w.CannotRead t root path cause ∧ failure = .unreadableInput path cause := by
  unfold list at failed
  split at failed
  next cause missing =>
    cases failed
    exact .inl ⟨cause, missing, rfl⟩
  next place entry found =>
    dsimp only at failed
    split at failed
    next other stops =>
      cases failed
      split at stops
      next => cases stops
      next reports =>
        obtain ⟨verdict, member, same⟩ := List.exists_of_findSome?_eq_some stops
        obtain ⟨visit, met, rfl⟩ := List.mem_map.mp member
        exact .inr ⟨Bool.eq_false_iff.mpr reports, cannotRead_of_judge met same⟩
    next => cases failed

/-- What is told of a file that a walk skipped is a complaint. -/
theorem isComplaint_of_judgeFile {rootIsDirectory : Bool} {path relativePath text : String}
    (told : (w.judgeFile t rootIsDirectory path relativePath).complaint? = some text)
    : IsComplaint text := by
  unfold judgeFile at told
  split at told
  next => cases told
  next =>
    split at told
    next => cases told
    next => cases told
    next =>
      cases told
      exact .inr (((Text.beginsWith_append "Cannot stat " _).append _).append _)

/-- What is told of an entry that a walk skipped is a complaint. -/
theorem isComplaint_of_judge {rootIsDirectory : Bool} {visit : Visit} {text : String}
    (told : (w.judge t rootIsDirectory visit).complaint? = some text)
    : IsComplaint text := by
  cases visit with
  | directory => cases told
  | file => exact isComplaint_of_judgeFile told
  | link =>
    rw [judge] at told
    split at told
    next => exact isComplaint_of_judgeFile told
    next => cases told
  | unreadable path cause =>
    cases told
    have front : Text.BeginsWith "Scan error: IO error for operation on " "Scan error: " := by
      rw [Text.BeginsWith]
      decide +kernel
    exact .inl (((front.append _).append _).append _)
  | loop path ancestor =>
    cases told
    have front : Text.BeginsWith "Scan error: File system loop found: " "Scan error: " := by
      rw [Text.BeginsWith]
      decide +kernel
    exact .inl (((front.append _).append _).append _)

/-- What a walk says of what it skipped is a complaint. -/
theorem isComplaint_of_skipped (listed : w.list t root = .ok listing) {text : String}
    (skipped : text ∈ listing.skipped)
    : IsComplaint text := by
  unfold list at listed
  split at listed
  next => cases listed
  next place entry found =>
    dsimp only at listed
    split at listed
    next => cases listed
    next =>
      cases listed
      obtain ⟨verdict, member, same⟩ := List.mem_filterMap.mp skipped
      obtain ⟨visit, -, rfl⟩ := List.mem_map.mp member
      exact isComplaint_of_judge same

/-- Of two walks that go the same way, one that fails at what cannot be read lists what one that
skips this lists, if that skips nothing.
-/
theorem list_eq_ok_iff_of_skips {w' : Walker} (goes : w.GoesAs w') (skips : w.skipUnreadable = true)
    (refuses : w'.skipUnreadable = false)
    : w'.list t root = .ok listing ↔ w.list t root = .ok listing ∧ listing.skipped = [] := by
  have alike := Tree.Alike.refl t
  simp only [list, visits_congr alike goes, judge_congr alike goes, skips, refuses, if_true,
    Bool.false_eq_true, if_false]
  cases t.stat root with
  | error cause => simp
  | ok found =>
    dsimp only
    generalize (w.visits t root).map (w.judge t (found.2 = .directory)) = verdicts
    cases fails : verdicts.findSome? Verdict.failure? with
    | some failure =>
      constructor
      · intro listed
        cases listed
      · rintro ⟨listed, unskipped⟩
        cases listed
        cases fails.symm.trans (Verdict.noFailure_iff_noComplaint.mpr unskipped)
    | none =>
      refine ⟨fun listed => ?_, And.left⟩
      cases listed
      exact ⟨rfl, Verdict.noFailure_iff_noComplaint.mp fails⟩

end Walker

end Casebook
