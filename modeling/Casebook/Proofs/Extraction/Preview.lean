import Casebook.Proofs.Collector.Preview
import Casebook.Proofs.Extraction.Contents
import Casebook.Proofs.Extraction.Course

/-! Dry runs. A dry run leaves the tree alone and tells what the real run would do, as long as that
writes no case over a source that it may still have to read.
-/

namespace Casebook

namespace Extraction

/-- The dry run with the settings of a run. -/
def preview (e : Extraction) : Extraction :=
  { e with dryRun := true }

variable {e : Extraction} {t : Tree} {root : String} {clock clock' : Clock} {listing : Listing}

/-- A dry run leaves the tree as it was, however it ends. -/
theorem run_tree_of_dryRun (dry : e.dryRun = true)
    : (e.run t root clock).tree = t := by
  have unprepared : e.prepared t = t := by
    rw [prepared, writer, dry]
    rfl
  obtain ⟨written, s, _, begins, leaves⟩ := e.exists_writes t root
  rw [(e.course t root clock).2, leaves.tree_eq dry]
  rcases begins.tree with same | same
  · exact same
  · exact same.trans unprepared

/-- Collecting without writing succeeds where a real run does, with the same progress, if no case of
that leads to a source once the output directory has been made.
-/
theorem collect_preview {p : Progress}
    (listed : (Walker.ofSettings e.config.scan).list t root = .ok listing)
    (ended : (e.collect t listing).result = .ok p)
    (apart
      : ∀ c ∈ p.cases, ∀ file ∈ listing.files,
          (e.prepared t).isSame (e.writer.casePath c.index) file.path = false)
    : (e.preview.collect t listing).result = .ok p := by
  have usable := checkSearch_of_collect ended
  have numbered := numbered_of_collect ended
  rw [collect_of_ok ended] at ended
  have same : e.preview.collect t listing
      = e.collector.preview.collectRest listing.files e.config.output.startIndex
          ((e.begun t listing).inTree t) := by
    rw [collect_of_checkSearch (e := e.preview) usable]
    rfl
  rw [same]
  refine Collector.collectRest_preview ?_ .here rfl ended
  intro written s reached upTo file member
  rw [numbered.casesWritten] at upTo
  rw [readText_reached (fun n inRange => ?_) listed reached upTo member,
    readText_prepared listed member]
  obtain ⟨c, isCase, number⟩ := numbered.exists_case inRange
  rw [← number]
  exact apart c isCase

/-- A dry run leaves the tree alone. Where the real run succeeds the dry run does as well, with the
same report but for being dry and for the readings of the clock, if no path of a case of the real
run leads to a source, in the tree that the real run leaves.
-/
theorem run_preview (e : Extraction) (t : Tree) (root : String) (clock clock' : Clock)
    : (e.preview.run t root clock').tree = t
      ∧ ∀ listing report,
          (Walker.ofSettings e.config.scan).list t root = .ok listing →
          (e.run t root clock).result = .ok report →
          (∀ c ∈ report.cases, ∀ file ∈ listing.files,
            (e.run t root clock).tree.isSame (e.writer.casePath c.index) file.path = false) →
          (e.preview.run t root clock').result
          = .ok { report.timed clock' with dryRun := true } := by
  refine ⟨run_tree_of_dryRun rfl, fun listing report listed ok apart => ?_⟩
  obtain ⟨p, ended, rfl⟩ := (run_result_eq_ok_iff listed).mp ok
  -- Writing files parts no two paths, so the paths are apart before any case is written.
  have written : (e.prepared t).FilesWritten (e.run t root clock).tree := by
    obtain ⟨_, last, reached, tree, -⟩ := exists_reached_of_collect ended
    rw [run_tree listed, tree]
    exact reached.filesWritten
  have previewed := collect_preview listed ended fun c isCase file member =>
    Bool.eq_false_iff.mpr fun same =>
      Bool.eq_false_iff.mp (apart c isCase file member) (written.isSame same)
  exact (run_result_eq_ok_iff (e := e.preview) listed).mpr ⟨p, previewed, rfl⟩

/-- The dry run tells of the three cases, of the literal that is left open and of the source that is
no text, as the real run does, and writes nothing.
-/
theorem run_preview_three_sources
    : ∃ report,
        ((ofSettings lenient).run threeSources "." default).result = .ok report
        ∧ report.summary.nextIndex = 3
        ∧ ((ofSettings lenient).preview.run threeSources "." default).result
          = .ok { report.timed default with dryRun := true }
        ∧ ((ofSettings lenient).preview.run threeSources "." default).tree = threeSources := by
  have listed : (Walker.ofSettings lenient.scan).list threeSources "." = .ok threeListing :=
    eq_ok_of_toOption (by decide +kernel)
  have usable : (ofSettings lenient).config.scan.marker.checkSearch = .ok () :=
    Marker.checkSearch_default
  obtain ⟨p, ok, counted⟩ :=
    exists_report_of_toOption default (fun p => (p.nextIndex, p.cases.map CaseRecord.index))
      (3, [0, 1, 2]) usable listed (by decide +kernel)
  obtain ⟨next, numbers⟩ := Prod.mk.inj counted
  obtain ⟨tree, previews⟩ := run_preview (ofSettings lenient) threeSources "." default default
  have apart
      : ∀ index ∈ [0, 1, 2], ∀ file ∈ threeListing.files,
          ((ofSettings lenient).run threeSources "." default).tree.isSame
              ((ofSettings lenient).writer.casePath index) file.path
            = false := by
    rw [run_tree listed, collect_of_checkSearch usable]
    decide +kernel
  exact ⟨_, ok, next,
    previews _ _ listed ok fun c isCase => apart _ (numbers ▸ List.mem_map_of_mem isCase), tree⟩

end Extraction

end Casebook
