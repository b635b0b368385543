import Casebook.Proofs.Collector.Lockstep
import Casebook.Proofs.Collector.Stopped
import Casebook.Proofs.Extraction.Course

/-! Runs in lockstep. Of two runs that differ in how they take what is amiss with a source, the
stricter one succeeds exactly where the other has nothing of that to warn of, and then they do the
same.
-/

namespace Casebook.Extraction

/-- One run is stricter than another about what the other warns of in warnings of a kind. It lists
the same sources or refuses what it cannot list, and has the stricter collector, with the same
marker and the same writer.
-/
structure StricterThan (strict e : Extraction) (kind : String → Prop) : Prop where
  marker : strict.config.scan.marker = e.config.scan.marker
  output : strict.config.output = e.config.output
  dryRun : strict.dryRun = e.dryRun
  spelling : strict.spelling = e.spelling
  collector : strict.collector.Stricter e.collector kind
  listing
    : ∀ t root listing,
        (Walker.ofSettings strict.config.scan).list t root = .ok listing
          ↔ (Walker.ofSettings e.config.scan).list t root = .ok listing
            ∧ ∀ w ∈ listing.skipped, ¬ kind w

variable {strict e : Extraction} {kind : String → Prop} {t : Tree} {root : String}
  {clock clock' : Clock} {listing : Listing} {p : Progress} {report : Report} {failure : Failure}

theorem StricterThan.writer (stricter : strict.StricterThan e kind)
    : strict.writer = e.writer := by
  rw [Extraction.writer, Extraction.writer, stricter.output, stricter.dryRun]

/-- The stricter run keeps in step with the other when both collect from the same sources. -/
theorem StricterThan.collect_inStep (stricter : strict.StricterThan e kind) (t : Tree)
    (listing : Listing)
    : Collector.InStep kind (strict.collect t listing) (e.collect t listing) := by
  cases usable : e.config.scan.marker.checkSearch with
  | error failure =>
    refine .together ?_ fun p ok => ?_
    · rw [collect, collect, ofConfig_eq, ofConfig_eq, stricter.marker, usable]
      rfl
    · rw [collect, ofConfig_eq, usable] at ok
      cases ok
  | ok =>
    have usable' : strict.config.scan.marker.checkSearch = .ok () := stricter.marker ▸ usable
    rw [collect_of_checkSearch usable', collect_of_checkSearch usable, stricter.output]
    exact stricter.collector.collectFiles_inStep stricter.writer t listing.files _

/-- A run has a report only if it has listed its sources. -/
theorem exists_listed_of_run (ok : (e.run t root clock).result = .ok report)
    : ∃ listing, (Walker.ofSettings e.config.scan).list t root = .ok listing := by
  cases listed : (Walker.ofSettings e.config.scan).list t root with
  | error failure =>
    rw [run, listed] at ok
    cases ok
  | ok listing => exact ⟨listing, rfl⟩

/-- A report repeats the settings of its run. -/
theorem settings_of_run (ok : (e.run t root clock).result = .ok report)
    : report.settings = SettingsDigest.ofConfig e.config := by
  obtain ⟨listing, listed⟩ := exists_listed_of_run ok
  obtain ⟨p, -, rfl⟩ := (run_result_eq_ok_iff listed).mp ok
  rfl

/-- The stricter run succeeds exactly where the other does without a warning of the kind, and then
both give the same report, but for the settings that it repeats and for the readings of the clock.
-/
theorem StricterThan.run_eq_ok_iff (stricter : strict.StricterThan e kind) (clock clock' : Clock)
    : (strict.run t root clock).result = .ok report
      ↔ ∃ report',
          (e.run t root clock').result = .ok report'
          ∧ (∀ w ∈ report'.warnings, ¬ kind w)
          ∧ report
            = { report'.timed clock with settings := SettingsDigest.ofConfig strict.config } := by
  have sameReport (p : Progress)
      : Report.ofProgress root strict.config.output.directory p strict.config strict.dryRun clock
            strict.spelling
        = {
            (Report.ofProgress root e.config.output.directory p e.config e.dryRun clock'
              e.spelling).timed clock with
            settings := SettingsDigest.ofConfig strict.config
          } := by
    rw [stricter.output, stricter.dryRun, stricter.spelling]
    rfl
  constructor
  · intro ok
    obtain ⟨listing, listed'⟩ := exists_listed_of_run ok
    obtain ⟨listed, skipsSilent⟩ := (stricter.listing t root listing).mp listed'
    obtain ⟨p, ended', rfl⟩ := (run_result_eq_ok_iff listed').mp ok
    obtain ⟨ended, silent⟩ := (stricter.collect_inStep t listing).result_eq_ok_iff.mp ended'
    refine ⟨_, (run_result_eq_ok_iff listed).mpr ⟨p, ended, rfl⟩, ?_, sameReport _⟩
    exact fun w member => (List.mem_append.mp member).elim (skipsSilent w) (silent w)
  · rintro ⟨report', ok, silent, rfl⟩
    obtain ⟨listing, listed⟩ := exists_listed_of_run ok
    obtain ⟨p, ended, rfl⟩ := (run_result_eq_ok_iff listed).mp ok
    have listed' := (stricter.listing t root listing).mpr
      ⟨listed, fun w member => silent w (List.mem_append_left _ member)⟩
    have ended' := (stricter.collect_inStep t listing).result_eq_ok_iff.mpr
      ⟨ended, fun w member => silent w (List.mem_append_right _ member)⟩
    exact (run_result_eq_ok_iff listed').mpr ⟨p, ended', (sameReport _).symm⟩

/-- Where the stricter run succeeds, the other leaves the same tree. -/
theorem StricterThan.run_tree_eq (stricter : strict.StricterThan e kind)
    (ok : (strict.run t root clock).result = .ok report)
    : (e.run t root clock').tree = (strict.run t root clock).tree := by
  obtain ⟨listing, listed'⟩ := exists_listed_of_run ok
  obtain ⟨listed, -⟩ := (stricter.listing t root listing).mp listed'
  obtain ⟨p, ended', -⟩ := (run_result_eq_ok_iff listed').mp ok
  rw [run_tree listed, run_tree listed', (stricter.collect_inStep t listing).eq_of_ok ended']

/-- A run that could list its sources fails while it reads them, unless that is because of its
marker or its output directory.
-/
theorem collectRest_of_failed
    (listed : (Walker.ofSettings e.config.scan).list t root = .ok listing)
    (failed : (e.run t root clock).result = .error failure)
    (noMarker : ∀ fault, failure ≠ .config (.marker fault))
    (noWriter : ∀ path cause, failure ≠ .writeFailure path cause)
    : (e.collector.collectRest listing.files e.config.output.startIndex
          (e.begun t listing)).result
        = .error failure
      ∧ e.ended t root
        = e.collector.endOf listing.files e.config.output.startIndex (e.begun t listing) := by
  have same {cause : Failure} (stopped : (e.run t root clock).result = .error cause)
      : cause = failure :=
    Except.error.inj (stopped.symm.trans failed)
  obtain ⟨course, -⟩ := e.course t root clock
  cases course with
  | unlisted refused => exact absurd (listed.symm.trans refused) nofun
  | unusable _ refused stopped =>
    obtain rfl := same stopped
    rw [ofConfig_eq] at refused
    cases usable : e.config.scan.marker.checkSearch with
    | error cause =>
      rw [usable] at refused
      cases refused
      obtain ⟨fault, rfl⟩ := Marker.checkSearch_eq_error usable
      exact absurd rfl (noMarker fault)
    | ok =>
      rw [usable] at refused
      cases refused
  | unprepared _ _ refused stopped =>
    obtain rfl := same stopped
    obtain ⟨-, -, cause, rfl, -⟩ := CaseWriter.prepare_eq_error refused
    exact absurd rfl (noWriter _ cause)
  | collected listed' _ _ collects ends =>
    obtain rfl := Except.ok.inj (listed.symm.trans listed')
    rw [← collects]
    exact ⟨(run_result_eq_error_iff listed).mp failed, ends⟩

end Casebook.Extraction
