import Mathlib.Data.List.Basic
import Casebook.Proofs.Collector.Written

/-! What a run reads from its sources. Where each source is read as it stood when the run began,
the run writes the literals of all sources in order, as if all had been read first.
-/

namespace Casebook

/-- The literals of some sources, each with its source, in the order of the sources. -/
def Tree.literalsOfAll (t : Tree) (m : Marker) (files : List Source) : List (Source × Literal) :=
  files.flatMap fun file => (t.literalsOf m file).map (file, ·)

theorem Tree.literalsOfAll_cons (t : Tree) (m : Marker) (file : Source) (rest : List Source)
    : t.literalsOfAll m (file :: rest)
      = (t.literalsOf m file).map (file, ·) ++ t.literalsOfAll m rest :=
  List.flatMap_cons

theorem Tree.literalsOfAll_append (t : Tree) (m : Marker) (front rest : List Source)
    : t.literalsOfAll m (front ++ rest) = t.literalsOfAll m front ++ t.literalsOfAll m rest :=
  List.flatMap_append

/-- A source has the literals that its text has. -/
theorem Tree.literalsOf_congr {t t' : Tree} {file : Source}
    (same : t'.readText file.path = t.readText file.path) (m : Marker)
    : t'.literalsOf m file = t.literalsOf m file := by
  rw [literalsOf, literalsOf, same]

/-- What is said of a source depends on what is read of it. -/
theorem Tree.warningOf?_congr {t t' : Tree} {file : Source}
    (same : t'.readText file.path = t.readText file.path) (m : Marker)
    : t'.warningOf? m file = t.warningOf? m file := by
  rw [warningOf?, warningOf?, same]

/-- Trees in which all sources are read alike have the same literals in them. -/
theorem Tree.literalsOfAll_congr {t t' : Tree} {files : List Source}
    (same : ∀ file ∈ files, t'.readText file.path = t.readText file.path) (m : Marker)
    : t'.literalsOfAll m files = t.literalsOfAll m files := by
  refine List.flatMap_congr fun file member => ?_
  rw [literalsOf_congr (same file member)]

namespace Collector

/-- All sources are found, and none of so many cases numbered from `first` on is written over one.
-/
structure ReadsApart (k : Collector) (t : Tree) (files : List Source) (first count : Nat)
    : Prop where
  found : ∀ file ∈ files, ∃ q entry, t.stat file.path = .ok (q, entry)
  apart
    : ∀ n < count, ∀ file ∈ files,
        t.isSame (k.writer.casePath (CaseNumber.after first n)) file.path = false

variable {k : Collector} {begun s : Collecting} {written : List (Source × Literal)}
  {file : Source} {files : List Source} {counter start count : Nat} {p : Progress}

/-- A source is read as it was while only cases are written to which it is no target. -/
theorem ReadsApart.readText_eq (reads : k.ReadsApart begun.tree files start count)
    (first : begun.progress.nextIndex = start) (reached : k.Reaches begun written s)
    (upTo : s.progress.casesWritten ≤ begun.progress.casesWritten + count) (member : file ∈ files)
    : s.tree.readText file.path = begun.tree.readText file.path := by
  subst first
  obtain ⟨q, entry, found⟩ := reads.found file member
  have counted := reached.casesWritten
  refine Tree.readText_congr ((reached.stat_eq_ok (fun n earlier target => ?_) found).trans found.symm)
  have same := Tree.isSame_of_destination? target found
  exact absurd same (Bool.eq_false_iff.mp (reads.apart n (by omega) file member))

/-- A run that gets to its end has written the literals of all sources in order, and said of each
source what is to be said, if no case up to its last disturbs a source. By induction on the
sources: each is read in a state that the run reached.
-/
theorem collectRest_literals
    (undisturbed
      : ∀ written s, k.Reaches begun written s → s.progress.casesWritten ≤ p.casesWritten →
          ∀ file ∈ files, s.tree.readText file.path = begun.tree.readText file.path)
    (reached : k.Reaches begun written s) (next : s.progress.nextIndex = counter)
    (ok : (k.collectRest files counter s).result = .ok p)
    : ∃ last,
        k.Reaches begun (written ++ begun.tree.literalsOfAll k.marker files) last
        ∧ (k.collectRest files counter s).tree = last.tree
        ∧ p = last.progress
        ∧ p.warnings
          = s.progress.warnings ++ files.filterMap (begun.tree.warningOf? k.marker) := by
  induction files generalizing written s counter with
  | nil =>
    cases ok
    refine ⟨s, ?_, rfl, rfl, (List.append_nil _).symm⟩
    rw [Tree.literalsOfAll, List.flatMap_nil, List.append_nil]
    exact reached
  | cons file rest ih =>
    -- The source is read in a state that the run reached, so it is read as it stood.
    have same := undisturbed written s reached (casesWritten_le_of_collectRest next ok) file
      List.mem_cons_self
    rw [collectRest] at ok ⊢
    cases collected : k.collectFile file counter s with
    | mk outcome after =>
      rw [collected] at ok
      cases outcome with
      | error failure => cases ok
      | ok counter =>
        obtain ⟨collects, counted, warned⟩ := collectFile_ok next collected
        obtain ⟨last, reached', tree, result, warnings⟩ :=
          ih
            (fun written s reached le other member =>
              undisturbed written s reached le other (List.mem_cons_of_mem file member))
            (reached.trans collects) counted.symm ok
        rw [Tree.literalsOf_congr same, List.append_assoc] at reached'
        refine ⟨last, reached', tree, result, ?_⟩
        rw [warnings, warned, Tree.warningOf?_congr same, List.append_assoc]
        congr 1
        rw [List.filterMap_cons]
        cases begun.tree.warningOf? k.marker file <;> rfl

end Collector

end Casebook
