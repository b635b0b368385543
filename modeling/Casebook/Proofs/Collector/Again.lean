import Casebook.Proofs.Collector.Alongside
import Casebook.Proofs.Walk.Congruence

/-! Collecting once more from the tree that collecting left. The sources are read as they were, so
the same cases come to the same files, or the first of them is in its own way.
-/

namespace Casebook

namespace Collector

variable {k k' : Collector} {begun s last last' : Collecting} {written : List (Source × Literal)}
  {file : Source} {files : List Source} {start count : Nat} {p : Progress} {t t' : Tree}

/-- Where files are written, sources and cases are apart as they were. -/
theorem ReadsApart.filesWritten (reads : k.ReadsApart t files start count)
    (isWritten : t.FilesWritten t')
    : k.ReadsApart t' files start count := by
  refine ⟨fun file member => ?_, fun n inRange file member => ?_⟩
  · obtain ⟨q, entry, found⟩ := reads.found file member
    obtain ⟨entry', found'⟩ := isWritten.exists_stat found
    exact ⟨q, entry', found'⟩
  · refine Bool.eq_false_iff.mpr fun same => ?_
    obtain ⟨q, entry, found⟩ := reads.found file member
    obtain ⟨q', leads, leads'⟩ := Tree.destination?_of_isSame same
    rw [isWritten.destination?_eq] at leads leads'
    obtain rfl := Option.some.inj (leads'.symm.trans (Tree.stat_eq_ok_iff.mp found).1)
    exact absurd (Tree.isSame_of_destination? leads found)
      (Bool.eq_false_iff.mp (reads.apart n inRange file member))

variable (real : k.writer.dryRun = false)
  (reads : k.ReadsApart begun.tree files start p.casesWritten)
  (first : begun.progress.nextIndex = start)
  (ok : (k.collectRest files start begun).result = .ok p)

end Collector

end Casebook
