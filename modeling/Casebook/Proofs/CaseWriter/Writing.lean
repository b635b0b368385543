import Casebook.CaseWriter
import Casebook.Proofs.Tree.Make
import Casebook.Proofs.Tree.Write

/-! What a writer does to a tree. It makes directories where nothing stood, and writes each case
where the path of the case leads, as far as the tree takes it.
-/

namespace Casebook.CaseWriter

/-- A file with some bytes is put at a location, to which the path of a number leads. -/
structure Puts (w : CaseWriter) (t : Tree) (index : Nat) (bytes : ByteArray) (q : Tree.Location)
    (after : Tree)
    : Prop where
  target : t.destination? (w.casePath index) .writeFile = some q
  below : q ≠ []
  free : t.IsFree q
  allowed : w.overwrite = true ∨ t.get? q = none
  put : after = t.insert q (.file bytes)

namespace Puts

variable {w : CaseWriter} {t after : Tree} {index : Nat} {bytes : ByteArray} {q : Tree.Location}

theorem leads (puts : w.Puts t index bytes q after)
    : t.destination? (w.casePath index) = some q :=
  Tree.destination?_of_writeFile puts.target

theorem filesWritten (puts : w.Puts t index bytes q after)
    : t.FilesWritten after :=
  puts.put ▸ Tree.filesWritten_insert puts.below puts.free _

/-- The file stands where it was put, and all else stands where it stood. -/
theorem get? (puts : w.Puts t index bytes q after) (other : Tree.Location)
    : after.get? other = if other = q then some (.file bytes) else t.get? other := by
  rw [puts.put, Tree.get?_insert puts.below]

/-- The path of the number leads to the file. -/
theorem stat_casePath (puts : w.Puts t index bytes q after)
    : after.stat (w.casePath index) = .ok (q, .file bytes) :=
  puts.filesWritten.stat_eq_ok puts.leads ((puts.get? q).trans (if_pos rfl))

/-- A writer that may overwrite nothing keeps what stands somewhere else. -/
theorem keeps (puts : w.Puts t index bytes q after) (keeps : w.overwrite = false)
    {other : Tree.Location} {entry : Tree.Entry} (stands : t.get? other = some entry)
    : after.get? other = some entry := by
  rw [puts.get?, if_neg, stands]
  rintro rfl
  rcases puts.allowed with overwrites | absent
  · exact absurd (keeps.symm.trans overwrites) Bool.false_ne_true
  · cases absent.symm.trans stands

end Puts

/-- What comes of writing a content under a number, and the tree that it leaves. A dry run changes
nothing. A real run changes nothing where something is in the way that may not be overwritten or
where there is no place for a file. Otherwise it puts the whole content at the place of the file, or
as much as the tree had taken of it when something stopped it.
-/
inductive CaseWritten (w : CaseWriter) (t : Tree) (index : Nat) (content : String)
    : Except Failure Nat → Tree → Prop
  | dry (dry : w.dryRun = true) : w.CaseWritten t index content (.ok content.utf8ByteSize) t
  | inTheWay (real : w.dryRun = false) (keeps : w.overwrite = false)
    (there : t.pathExists (w.casePath index) = true)
    : w.CaseWritten t index content (.error (.outputFileExists (w.casePath index))) t
  | noPlace {cause} (real : w.dryRun = false)
    (noPlace : t.fileTarget (w.casePath index) = .error cause)
    : w.CaseWritten t index content (.error (.writeFailure (w.casePath index) cause)) t
  | whole {q after} (real : w.dryRun = false) (puts : w.Puts t index content.toUTF8 q after)
    : w.CaseWritten t index content (.ok content.utf8ByteSize) after
  | brokenOff {q after} {fault : Tree.Fault} (real : w.dryRun = false)
    (puts : w.Puts t index (content.toUTF8.extract 0 fault.taken) q after)
    (faulty : ¬ t.TakesAll)
    : w.CaseWritten t index content (.error (.writeFailure (w.casePath index) fault.cause)) after

variable {w : CaseWriter} {t after : Tree} {index : Nat} {content : String}

theorem caseWritten_writeCase (w : CaseWriter) (t : Tree) (index : Nat) (content : String)
    : w.CaseWritten t index content (w.writeCase t index content).1
        (w.writeCase t index content).2 := by
  unfold writeCase
  cases dryRun : w.dryRun with
  | true => exact .dry dryRun
  | false =>
  rw [if_neg Bool.false_ne_true]
  by_cases inTheWay : (!w.overwrite && t.pathExists (w.casePath index)) = true
  · rw [if_pos inTheWay]
    rw [Bool.and_eq_true, Bool.not_eq_true'] at inTheWay
    exact .inTheWay dryRun inTheWay.1 inTheWay.2
  rw [if_neg inTheWay]
  have puts {q : Tree.Location} {bytes : ByteArray}
      (isTarget : t.fileTarget (w.casePath index) = .ok q)
      : w.Puts t index bytes q (t.insert q (.file bytes)) := by
    obtain ⟨target, below, free⟩ := Tree.fileTarget_eq_ok isTarget
    refine ⟨target, below, free, ?_, rfl⟩
    cases overwrites : w.overwrite with
    | true => exact .inl rfl
    | false =>
      rw [overwrites, Bool.not_false, Bool.true_and, Bool.not_eq_true] at inTheWay
      exact .inr (Tree.absent_of_not_pathExists inTheWay (Tree.destination?_of_writeFile target))
  have written := t.textWritten_writeText (w.casePath index) content
  cases wrote : t.writeText (w.casePath index) content with
  | mk outcome left =>
    rw [wrote] at written
    cases written with
    | refused noPlace => exact .noPlace dryRun noPlace
    | whole target => exact .whole dryRun (puts target)
    | brokenOff target faulty => exact .brokenOff dryRun (puts target) faulty

theorem caseWritten_of_eq {given : Except Failure Nat}
    (wrote : w.writeCase t index content = (given, after))
    : w.CaseWritten t index content given after := by
  have written := w.caseWritten_writeCase t index content
  rwa [wrote] at written

/-- Writing a content writes all of it at one location, or nothing in a dry run. -/
theorem writeCase_eq_ok {bytes : Nat} (ok : w.writeCase t index content = (.ok bytes, after))
    : bytes = content.utf8ByteSize
      ∧ (w.dryRun = true → after = t)
      ∧ (w.dryRun = false → ∃ q, w.Puts t index content.toUTF8 q after) := by
  cases caseWritten_of_eq ok with
  | dry dry => exact ⟨rfl, fun _ => rfl, fun real => absurd (dry.symm.trans real) nofun⟩
  | whole real puts => exact ⟨rfl, fun dry => absurd (real.symm.trans dry) nofun, fun _ => ⟨_, puts⟩⟩

/-- A writer that has to make its directory makes it and those above it. -/
private theorem prepare_eq {w : CaseWriter} {t : Tree}
    (missing : ¬ (w.dryRun || t.pathExists w.directory) = true)
    : (w.prepare t).2 = (t.makeDirectories w.directory).2
      ∧ ((w.prepare t).1 = .ok () → (t.makeDirectories w.directory).1 = .ok ()) := by
  unfold prepare
  rw [if_neg missing]
  split
  next made outcome => exact ⟨congrArg Prod.snd outcome.symm, fun _ => congrArg Prod.fst outcome⟩
  next made outcome => exact ⟨congrArg Prod.snd outcome.symm, nofun⟩

/-- A writer that cannot make its directory, which nothing stands for, fails to write it. -/
theorem prepare_eq_error {w : CaseWriter} {t : Tree} {failure : Failure}
    (failed : (w.prepare t).1 = .error failure)
    : w.dryRun = false
      ∧ t.pathExists w.directory = false
      ∧ ∃ cause,
          failure = .writeFailure w.directory cause
          ∧ (t.makeDirectories w.directory).1 = .error cause := by
  unfold prepare at failed
  split at failed
  next => cases failed
  next missing =>
    rw [Bool.not_eq_true, Bool.or_eq_false_iff] at missing
    split at failed
    next => cases failed
    next cause _ unmade =>
      cases failed
      exact ⟨missing.1, missing.2, cause, rfl, congrArg Prod.fst unmade⟩

/-- A writer prepares a tree by making directories at the path of its directory and above it,
whether all that are missing can be made or not.
-/
theorem prepare_madeAlong (w : CaseWriter) (t : Tree)
    : t.MadeAlong (w.directory :: Path.ancestors w.directory) (w.prepare t).2 := by
  by_cases there : (w.dryRun || t.pathExists w.directory) = true
  · unfold prepare
    rw [if_pos there]
    exact .refl t _
  · rw [(prepare_eq there).1]
    exact t.makeDirectoriesAlong_madeAlong _

theorem prepare_directoriesMade (w : CaseWriter) (t : Tree)
    : t.DirectoriesMade (w.prepare t).2 :=
  (w.prepare_madeAlong t).directoriesMade

/-- Once a writer has prepared a tree for a real run, the path of its directory leads somewhere,
unless it is empty and stands for the directory that paths start from.
-/
theorem pathExists_of_prepare {w : CaseWriter} {t : Tree} (real : w.dryRun = false)
    (ok : (w.prepare t).1 = .ok ()) (nonempty : w.directory.isEmpty = false)
    : (w.prepare t).2.pathExists w.directory = true := by
  by_cases there : (w.dryRun || t.pathExists w.directory) = true
  · have found : t.pathExists w.directory = true := by rwa [real, Bool.false_or] at there
    unfold prepare
    rw [if_pos there]
    exact found
  · obtain ⟨tree, result⟩ := prepare_eq there
    obtain ⟨q, found⟩ :=
      Tree.isDirectory_iff.mp (Tree.isDirectory_of_makeDirectoriesAlong (result ok) nonempty)
    rw [tree, Tree.pathExists, Tree.makeDirectories, found]
    rfl

/-- A writer that has prepared a tree finds nothing to prepare in it once files are written. -/
theorem prepare_again {w : CaseWriter} {t t' : Tree} (real : w.dryRun = false)
    (ok : (w.prepare t).1 = .ok ()) (written : (w.prepare t).2.FilesWritten t')
    : w.prepare t' = (.ok (), t') := by
  unfold prepare
  split
  next => rfl
  next missing =>
    -- Only the directory that paths start from is not found at its path, which is empty.
    have empty : w.directory.isEmpty = true := by
      refine Decidable.byContradiction fun nonempty => missing ?_
      rw [written.pathExists (pathExists_of_prepare real ok (Bool.eq_false_iff.mpr nonempty)),
        Bool.or_true]
    have made : t'.makeDirectories w.directory = (.ok (), t') := by
      rw [Tree.makeDirectories, Tree.makeDirectoriesAlong, if_pos empty]
    rw [made]

end Casebook.CaseWriter
