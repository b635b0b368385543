import Casebook.Extraction
import Casebook.Proofs.Collector.Numbering
import Casebook.Proofs.Collector.Sources
import Casebook.Proofs.Walk.Listed

/-! The parts of a run. Its settings make one writer and one collector; it lists its sources,
makes the output directory and reads the sources from there on, and its report is that of the
state it ends in.
-/

namespace Casebook

/-- The report with other readings of the clock. -/
def Report.timed (r : Report) (clock : Clock) : Report :=
  { r with time := clock.now, summary := { r.summary with elapsed := clock.elapsed } }

namespace Extraction

/-- The writer of a run. -/
def writer (e : Extraction) : CaseWriter :=
  CaseWriter.ofSettings e.config.output e.dryRun

/-- The collector of a run, if its marker can be used. -/
def collector (e : Extraction) : Collector where
  marker := e.config.scan.marker
  writer := e.writer
  strict := e.config.scan.strict
  skipUnreadable := e.config.scan.skipUnreadable

/-- The tree once the output directory has been made, as far as that can be done. -/
def prepared (e : Extraction) (t : Tree) : Tree :=
  (e.writer.prepare t).2

/-- The state in which a run begins to read its sources. -/
def begun (e : Extraction) (t : Tree) (listing : Listing) : Collecting where
  tree := e.prepared t
  progress := Progress.begin listing.files.length e.config.output.startIndex

theorem nextIndex_begun (e : Extraction) (t : Tree) (listing : Listing)
    : (e.begun t listing).progress.nextIndex = e.config.output.startIndex :=
  rfl

/-- The records of some literals, numbered from the number that the run starts with. -/
def records (e : Extraction) (literals : List (Source × Literal)) : List CaseRecord :=
  (literals.zipIdx e.config.output.startIndex).map fun ((file, l), index) =>
    {
      index := index
      fileName := e.writer.fileName index
      source := file.relativePath
      line := l.line
      delimiter := l.delimiter
      lines := l.lineCount
      bytes := l.content.utf8ByteSize
    }

variable {e : Extraction} {t : Tree} {root : String} {clock : Clock} {listing : Listing}

/-- A run has its collector once its marker can be used. -/
theorem ofConfig_eq (e : Extraction)
    : Collector.ofConfig e.config e.dryRun
      = (do
          e.config.scan.marker.checkSearch
          .ok e.collector) :=
  rfl

/-- With a marker that can be used a run collects from the sources that were listed. -/
theorem collect_of_checkSearch (usable : e.config.scan.marker.checkSearch = .ok ())
    : e.collect t listing
      = e.collector.collectFiles t listing.files e.config.output.startIndex := by
  unfold collect
  rw [ofConfig_eq, usable]
  rfl

/-- What a path leads to is found there when the output directory has been made. -/
theorem stat_prepared {path : String} {place : Tree.Location} {entry : Tree.Entry}
    (found : t.stat path = .ok (place, entry))
    : (e.prepared t).stat path = .ok (place, entry) :=
  (e.writer.prepare_directoriesMade t).stat found

/-- Collecting from listed sources leaves the tree as it was, or with the output directory made
as far as it could be, or it is the run over the sources.
-/
theorem collect_eq (e : Extraction) (t : Tree) (listing : Listing)
    : (∃ failure, e.collect t listing = { result := .error failure, tree := t })
      ∨ (∃ failure, e.collect t listing = { result := .error failure, tree := e.prepared t })
      ∨ e.collect t listing
        = e.collector.collectRest listing.files e.config.output.startIndex (e.begun t listing) := by
  cases usable : e.config.scan.marker.checkSearch with
  | error failure =>
    refine .inl ⟨failure, ?_⟩
    unfold collect
    rw [ofConfig_eq, usable]
    rfl
  | ok =>
    rw [collect_of_checkSearch usable]
    refine .inr ?_
    unfold Collector.collectFiles begun prepared
    have same : e.collector.writer = e.writer := rfl
    rw [same]
    cases e.writer.prepare t with
    | mk outcome tree =>
      cases outcome with
      | error failure => exact .inl ⟨failure, rfl⟩
      | ok => exact .inr rfl

/-- Collecting succeeds only as the run over the sources. -/
theorem collect_of_ok {p : Progress} (ended : (e.collect t listing).result = .ok p)
    : e.collect t listing
      = e.collector.collectRest listing.files e.config.output.startIndex (e.begun t listing) := by
  rcases collect_eq e t listing with ⟨_, same⟩ | ⟨_, same⟩ | same
  · rw [same] at ended
    cases ended
  · rw [same] at ended
    cases ended
  · exact same

/-- Collecting succeeds only with a marker that can be used. -/
theorem checkSearch_of_collect {p : Progress} (ended : (e.collect t listing).result = .ok p)
    : e.config.scan.marker.checkSearch = .ok () := by
  cases usable : e.config.scan.marker.checkSearch with
  | error failure =>
    rw [collect, ofConfig_eq, usable] at ended
    cases ended
  | ok => rfl

/-- Collecting succeeds in a state that is reached by writing literals of the sources. -/
theorem exists_reached_of_collect {p : Progress} (ended : (e.collect t listing).result = .ok p)
    : ∃ written last,
        e.collector.Reaches (e.begun t listing) written last
        ∧ (e.collect t listing).tree = last.tree
        ∧ p = last.progress := by
  have same := collect_of_ok ended
  rw [same] at ended ⊢
  exact Collector.collectRest_reaches listing.files (e.nextIndex_begun t listing) ended

/-- A run numbers its cases from the number on that its settings give. -/
theorem numbered_of_collect {p : Progress} (ended : (e.collect t listing).result = .ok p)
    : p.Numbered e.writer e.config.output.startIndex := by
  obtain ⟨_, _, reached, -, rfl⟩ := exists_reached_of_collect ended
  exact reached.numbered (Progress.numbered_begin _ _ _)

/-- As long as no number is too great for a word, the cases have all numbers up to the next one. -/
theorem nextIndex_of_collect {p : Progress} (ended : (e.collect t listing).result = .ok p)
    (fits : e.config.output.startIndex + p.casesWritten < CaseNumber.bound)
    : p.firstIndex = e.config.output.startIndex
      ∧ p.nextIndex = e.config.output.startIndex + p.casesWritten := by
  have numbered := numbered_of_collect ended
  rw [numbered.casesWritten] at fits ⊢
  exact ⟨numbered.firstIndex, (numbered.contiguous fits).2⟩

/-- A run that has listed its sources leaves the tree that collecting from them leaves. -/
theorem run_tree (listed : (Walker.ofSettings e.config.scan).list t root = .ok listing)
    : (e.run t root clock).tree = (e.collect t listing).tree := by
  unfold run
  rw [listed]
  dsimp only
  cases (e.collect t listing).result <;> rfl

/-- The report of a run is that of the state in which collecting from its sources ends, with what
the walk complained of before what was said of the sources.
-/
theorem run_result_eq_ok_iff
    (listed : (Walker.ofSettings e.config.scan).list t root = .ok listing) {report : Report}
    : (e.run t root clock).result = .ok report
      ↔ ∃ p,
          (e.collect t listing).result = .ok p
          ∧ report
            = Report.ofProgress root e.config.output.directory
                { p with warnings := listing.skipped ++ p.warnings } e.config e.dryRun clock
                e.spelling := by
  unfold run
  rw [listed]
  dsimp only
  cases (e.collect t listing).result with
  | error failure => exact ⟨nofun, fun ⟨_, impossible, _⟩ => nomatch impossible⟩
  | ok p =>
    simp only [Except.ok.injEq]
    constructor
    · rintro rfl
      exact ⟨p, rfl, rfl⟩
    · rintro ⟨_, rfl, rfl⟩
      rfl

/-- A run reports of its sources if its marker can be used and collecting from them is known to
give something.
-/
theorem exists_report_of_toOption (clock : Clock) {α : Type} (part : Progress → α) (b : α)
    (usable : e.config.scan.marker.checkSearch = .ok ())
    (listed : (Walker.ofSettings e.config.scan).list t root = .ok listing)
    (known
      : (e.collector.collectFiles t listing.files e.config.output.startIndex).result.toOption.map
          part
        = some b)
    : ∃ p,
        (e.run t root clock).result
          = .ok (Report.ofProgress root e.config.output.directory
              { p with warnings := listing.skipped ++ p.warnings } e.config e.dryRun clock
              e.spelling)
        ∧ part p = b := by
  obtain ⟨p, ended, same⟩ := exists_ok_of_toOption known
  refine ⟨p, (run_result_eq_ok_iff listed).mpr ⟨p, ?_, rfl⟩, same⟩
  rw [collect_of_checkSearch usable]
  exact ended

/-- Records of literals are those that a collector keeps when it writes them, as long as no number
is too great for a word.
-/
theorem records_eq {literals : List (Source × Literal)}
    (fits : e.config.output.startIndex + literals.length < CaseNumber.bound)
    : e.records literals
      = literals.zipIdx.map fun placed =>
          e.collector.recordOf placed.1.1
            (CaseNumber.after e.config.output.startIndex placed.2) placed.1.2
            placed.1.2.content.utf8ByteSize := by
  rw [records, List.zipIdx_eq_map_add, List.map_map]
  refine List.map_congr_left fun placed member => ?_
  obtain ⟨inRange, -⟩ := List.getElem?_eq_some_iff.mp (List.mem_zipIdx_iff_getElem?.mp member)
  rw [CaseNumber.after_eq (by omega)]
  rfl

end Extraction

end Casebook
