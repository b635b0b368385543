import Casebook.Collector
import Casebook.Proofs.CaseNumber
import Casebook.Proofs.CaseWriter.Writing

/-! The states that a run gets to. A run only takes up sources, warns, and writes literals under
the next number, so what each of these steps keeps holds wherever the run ends. It ends in a state
that it has reached, or in one in which the file of one more case has been opened in vain.
-/

namespace Casebook

/-- The literals that are read from a source, none if it is no text. -/
def Tree.literalsOf (t : Tree) (m : Marker) (file : Source) : List Literal :=
  match t.readText file.path with
  | .ok text => (m.scan text).literals
  | .error _ => []

/-- What is said of a source that is no text, or whose text ends inside a literal. -/
def Tree.warningOf? (t : Tree) (m : Marker) (file : Source) : Option String :=
  match t.readText file.path with
  | .ok text => (m.scan text).unterminated.map (Collector.discardWarning file)
  | .error cause => some (Collector.skipWarning file cause)

namespace Collector

/-- A run gets from one state to another, and writes some literals on the way. Each literal is
listed with its source, the first written first.
-/
inductive Reaches (k : Collector) (start : Collecting)
    : List (Source × Literal) → Collecting → Prop
  | here : k.Reaches start [] start
  | enter {written s} (before : k.Reaches start written s) (file : String)
    : k.Reaches start written { s with progress := s.progress.enter file }
  | warn {written s} (before : k.Reaches start written s) (warning : String)
    : k.Reaches start written { s with progress := s.progress.warn warning }
  | write {written s file l bytes tree} (before : k.Reaches start written s)
    (ok : k.writer.writeCase s.tree s.progress.nextIndex l.content = (.ok bytes, tree))
    : k.Reaches start (written ++ [(file, l)])
        {
          tree := tree
          progress := s.progress.record (k.recordOf file s.progress.nextIndex l bytes)
        }

variable {k : Collector} {start middle s : Collecting} {written more : List (Source × Literal)}
  {counter : Nat} {file : Source}

/-- Two parts of a run make one, by induction on the second. -/
theorem Reaches.trans (first : k.Reaches start written middle) (second : k.Reaches middle more s)
    : k.Reaches start (written ++ more) s := by
  induction second with
  | here => rwa [List.append_nil]
  | enter _ file ih => exact ih.enter file
  | warn _ warning ih => exact ih.warn warning
  | write _ ok ih =>
    rw [← List.append_assoc]
    exact ih.write ok

/-- Every literal that is written takes one number. -/
theorem Reaches.nextIndex (reached : k.Reaches start written s)
    : s.progress.nextIndex = CaseNumber.after start.progress.nextIndex written.length := by
  induction reached with
  | here => rfl
  | enter _ _ ih => exact ih
  | warn _ _ ih => exact ih
  | write _ _ ih =>
    rw [List.length_append, CaseNumber.after_add, ← ih]
    rfl

/-- Every literal that is written is counted. -/
theorem Reaches.casesWritten (reached : k.Reaches start written s)
    : s.progress.casesWritten = start.progress.casesWritten + written.length := by
  induction reached with
  | here => rfl
  | enter _ _ ih => exact ih
  | warn _ _ ih => exact ih
  | write _ _ ih =>
    rw [List.length_append, ← Nat.add_assoc, ← ih]
    rfl

/-- A dry run leaves the tree as it was. -/
theorem Reaches.tree_eq (reached : k.Reaches start written s) (dry : k.writer.dryRun = true)
    : s.tree = start.tree := by
  induction reached with
  | here => rfl
  | enter _ _ ih => exact ih
  | warn _ _ ih => exact ih
  | write _ ok ih => exact ((CaseWriter.writeCase_eq_ok ok).2.1 dry).trans ih

/-- A run changes nothing in the tree but files. -/
theorem Reaches.filesWritten (reached : k.Reaches start written s)
    : start.tree.FilesWritten s.tree := by
  induction reached with
  | here => exact .refl _
  | enter _ _ ih => exact ih
  | warn _ _ ih => exact ih
  | write _ ok ih =>
    obtain ⟨-, dry, real⟩ := CaseWriter.writeCase_eq_ok ok
    cases isDry : k.writer.dryRun with
    | true =>
      rw [dry isDry]
      exact ih
    | false =>
      obtain ⟨q, puts⟩ := real isDry
      exact ih.trans puts.filesWritten

-----------------------------------------------------------------------------------------
-- Where runs end
-----------------------------------------------------------------------------------------

/-- A run that has written some literals ends in a state: one that it has reached, or the one in
which something has stopped the next literal on the way to its file.
-/
inductive Leaves (k : Collector) (start : Collecting) (written : List (Source × Literal))
    : Option (Source × Literal) → Collecting → Prop
  | whole {last} (reached : k.Reaches start written last) : k.Leaves start written none last
  | brokenOff {file l last q left} {fault : Tree.Fault} (reached : k.Reaches start written last)
    (real : k.writer.dryRun = false)
    (puts
      : k.writer.Puts last.tree last.progress.nextIndex
          (l.content.toUTF8.extract 0 fault.taken) q left)
    (faulty : ¬ last.tree.TakesAll)
    : k.Leaves start written (some (file, l)) { last with tree := left }

variable {broken? : Option (Source × Literal)}

/-- A run that goes on from a state that it has reached ends where it goes to. -/
theorem Reaches.leaves (first : k.Reaches start written middle)
    (second : k.Leaves middle more broken? s)
    : k.Leaves start (written ++ more) broken? s := by
  cases second with
  | whole reached => exact .whole (first.trans reached)
  | brokenOff reached real puts faulty => exact .brokenOff (first.trans reached) real puts faulty

/-- A run ends with the progress of a state that it has reached. -/
theorem Leaves.exists_reaches (leaves : k.Leaves start written broken? s)
    : ∃ last, k.Reaches start written last ∧ s.progress = last.progress := by
  cases leaves with
  | whole reached => exact ⟨s, reached, rfl⟩
  | brokenOff reached => exact ⟨_, reached, rfl⟩

theorem Leaves.casesWritten (leaves : k.Leaves start written broken? s)
    : s.progress.casesWritten = start.progress.casesWritten + written.length := by
  obtain ⟨last, reached, same⟩ := leaves.exists_reaches
  rw [same, reached.casesWritten]

theorem Leaves.tree_eq (leaves : k.Leaves start written broken? s) (dry : k.writer.dryRun = true)
    : s.tree = start.tree := by
  cases leaves with
  | whole reached => exact reached.tree_eq dry
  | brokenOff _ real => exact absurd (real.symm.trans dry) nofun

theorem Leaves.filesWritten (leaves : k.Leaves start written broken? s)
    : start.tree.FilesWritten s.tree := by
  cases leaves with
  | whole reached => exact reached.filesWritten
  | brokenOff reached _ puts => exact reached.filesWritten.trans puts.filesWritten

-----------------------------------------------------------------------------------------
-- The literals of a source
-----------------------------------------------------------------------------------------

/-- What comes of writing literals of a source, and the state that it leaves. All are written and
the next number is given, or those in front of one that cannot be written.
-/
inductive LiteralsWritten (k : Collector) (file : Source) (ls : List Literal) (s : Collecting)
    : Except Failure Nat → Collecting → Prop
  | all {last} (reached : k.Reaches s (ls.map (file, ·)) last)
    : k.LiteralsWritten file ls s (.ok last.progress.nextIndex) last
  | stopped {n l last failure left} (next : ls[n]? = some l)
    (reached : k.Reaches s ((ls.take n).map (file, ·)) last)
    (failed
      : k.writer.writeCase last.tree last.progress.nextIndex l.content = (.error failure, left))
    : k.LiteralsWritten file ls s (.error failure) { last with tree := left }

/-- Literals are written one by one under the next number, by induction on them. -/
theorem literalsWritten_writeAll (file : Source) (ls : List Literal)
    (next : s.progress.nextIndex = counter)
    : k.LiteralsWritten file ls s (k.writeAll file ls counter s).1
        (k.writeAll file ls counter s).2 := by
  induction ls generalizing counter s with
  | nil =>
    subst next
    exact .all .here
  | cons l rest ih =>
    subst next
    rw [writeAll]
    cases wrote : k.writer.writeCase s.tree s.progress.nextIndex l.content with
    | mk outcome tree =>
    cases outcome with
    | error failure => exact .stopped (n := 0) rfl .here wrote
    | ok bytes =>
      have first : k.Reaches s [(file, l)] _ := Reaches.here.write wrote
      let wroteOne : Collecting := {
        tree := tree
        progress := s.progress.record (k.recordOf file s.progress.nextIndex l bytes)
      }
      have next : wroteOne.progress.nextIndex = CaseNumber.next s.progress.nextIndex := rfl
      have later := ih next
      dsimp only
      cases more
          : k.writeAll file rest (CaseNumber.next s.progress.nextIndex) wroteOne with
      | mk outcome last =>
        rw [more] at later
        dsimp only at later
        cases later with
        | all reached => exact .all (first.trans reached)
        | @stopped n _ _ _ _ listed reached failed =>
          exact .stopped (n := n + 1) listed (first.trans reached) failed

theorem literalsWritten_of_eq {ls : List Literal} {outcome : Except Failure Nat} {last : Collecting}
    (next : s.progress.nextIndex = counter)
    (wrote : k.writeAll file ls counter s = (outcome, last))
    : k.LiteralsWritten file ls s outcome last := by
  have inverted := literalsWritten_writeAll (k := k) file ls next
  rwa [wrote] at inverted

/-- Writing literals ends with the first of them written, and perhaps with the next one broken off.
-/
theorem LiteralsWritten.exists_leaves {ls : List Literal} {outcome : Except Failure Nat}
    {last : Collecting} (writes : k.LiteralsWritten file ls s outcome last)
    : ∃ (done : List Literal) (broken? : Option Literal),
        done <+: ls
        ∧ k.Leaves s (done.map (file, ·)) (broken?.map (file, ·)) last := by
  cases writes with
  | all reached => exact ⟨ls, none, List.prefix_refl ls, .whole reached⟩
  | @stopped n l last failure left next reached failed =>
    cases CaseWriter.caseWritten_of_eq failed with
    | inTheWay => exact ⟨ls.take n, none, List.take_prefix n ls, .whole reached⟩
    | noPlace => exact ⟨ls.take n, none, List.take_prefix n ls, .whole reached⟩
    | brokenOff real puts faulty =>
      exact ⟨ls.take n, some l, List.take_prefix n ls, .brokenOff reached real puts faulty⟩

/-- Writing literals neither takes up a source nor warns. -/
theorem writeAll_keeps (file : Source) (ls : List Literal) (counter : Nat) (s : Collecting)
    : (k.writeAll file ls counter s).2.progress.filesScanned = s.progress.filesScanned
      ∧ (k.writeAll file ls counter s).2.progress.warnings = s.progress.warnings := by
  induction ls generalizing counter s with
  | nil => exact ⟨rfl, rfl⟩
  | cons l rest ih =>
    rw [writeAll]
    cases k.writer.writeCase s.tree counter l.content with
    | mk outcome tree =>
      cases outcome with
      | error failure => exact ⟨rfl, rfl⟩
      | ok bytes => exact ih (CaseNumber.next counter) _

end Collector

end Casebook
