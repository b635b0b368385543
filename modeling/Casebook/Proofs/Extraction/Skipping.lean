import Casebook.Proofs.Extraction.Contents
import Casebook.Proofs.Extraction.Lockstep
import Casebook.Proofs.Extraction.Sources

/-! Runs that skip what cannot be read. A run that skips nothing does what the same run does that
skips, up to the first entry or source that cannot be read, at which it stops.
-/

namespace Casebook.Extraction

/-- The run that skips what cannot be read, or the one that stops there. -/
def withSkipping (e : Extraction) (skips : Bool) : Extraction :=
  { e with config := { e.config with scan := { e.config.scan with skipUnreadable := skips } } }

variable {e : Extraction} {t : Tree} {root : String} {clock : Clock}

/-- Walks that skip and walks that do not go the same way. -/
theorem goesAs_withSkipping (e : Extraction)
    : (Walker.ofSettings (e.withSkipping true).config.scan).GoesAs
        (Walker.ofSettings (e.withSkipping false).config.scan) :=
  ⟨rfl, rfl, rfl⟩

/-- All complaints of a walk tell of something skipped, so a walk without such a complaint has
skipped nothing.
-/
theorem stricterThan_withSkipping (e : Extraction)
    : (e.withSkipping false).StricterThan (e.withSkipping true) Collector.TellsOfSkip where
  marker := rfl
  output := rfl
  dryRun := rfl
  spelling := rfl
  collector := Collector.stricter_of_not_skipUnreadable e.collector
  listing t root listing := by
    rw [Walker.list_eq_ok_iff_of_skips e.goesAs_withSkipping rfl rfl]
    refine and_congr_right fun listed => ⟨fun unskipped => ?_, fun silent => ?_⟩
    · rw [unskipped]
      nofun
    · refine List.eq_nil_iff_forall_not_mem.mpr fun w skipped => ?_
      exact silent w skipped (.inl (Walker.isComplaint_of_skipped listed skipped))

/-- A run that skips what cannot be read fails to read only its root. -/
theorem stat_root_of_failed {path : String} {cause : IoError}
    (skips : e.config.scan.skipUnreadable = true)
    (failed : (e.run t root clock).result = .error (.unreadableInput path cause))
    : path = root ∧ t.stat root = .error cause := by
  cases listed : (Walker.ofSettings e.config.scan).list t root with
  | error failure =>
    have stopped : (e.run t root clock).result = .error failure := by rw [run, listed]
    rcases Walker.list_eq_error listed with ⟨reason, missing, rfl⟩ | ⟨refuses, -⟩
    · cases stopped.symm.trans failed
      exact ⟨rfl, missing⟩
    · cases skips.symm.trans refuses
  | ok listing =>
    obtain ⟨stopped, -⟩ := collectRest_of_failed listed failed (by simp) (by simp)
    obtain ⟨before, file, behind, -, stops, -⟩ :=
      Collector.exists_failed_of_collectRest (e.nextIndex_begun t listing) stopped
    have refuses := Collector.skipUnreadable_eq_false_of_failed rfl stops
    cases skips.symm.trans refuses

/-- A run that skips nothing succeeds exactly where the same run that skips what cannot be read does
without telling of a skip. Then both give the same report, but for that setting and the readings of
the clock, and leave the same tree. The only thing that a run which skips can fail to read is its
root.
-/
theorem run_skipping (e : Extraction) (t : Tree) (root : String) (clock clock' : Clock)
    : (∀ report,
          ((e.withSkipping false).run t root clock).result = .ok report
            ↔ ∃ skipping,
                ((e.withSkipping true).run t root clock').result = .ok skipping
                ∧ (∀ w ∈ skipping.warnings, ¬ Collector.TellsOfSkip w)
                ∧ report
                  = {
                      skipping.timed clock with
                      settings := { skipping.settings with skipUnreadable := false }
                    })
      ∧ (∀ report, ((e.withSkipping false).run t root clock).result = .ok report →
          ((e.withSkipping true).run t root clock').tree
          = ((e.withSkipping false).run t root clock).tree)
      ∧ ∀ path cause,
          ((e.withSkipping true).run t root clock').result = .error (.unreadableInput path cause) →
          path = root ∧ t.stat root = .error cause := by
  refine ⟨fun report => ?_, fun report ok => (stricterThan_withSkipping e).run_tree_eq ok,
    fun path cause failed => stat_root_of_failed rfl failed⟩
  refine ((stricterThan_withSkipping e).run_eq_ok_iff clock clock').trans ?_
  refine exists_congr fun skipping => and_congr_right fun ok => and_congr_right fun _ => ?_
  rw [settings_of_run ok]
  rfl

/-- A run that skips warns of the third of three sources, which is no text, and a run that does not
skip stops there. A source that can be read is extracted alike by both, and a run that skips fails
at a root that is missing.
-/
theorem run_skipping_three_sources
    : (∃ report,
          (((ofSettings lenient).withSkipping true).run threeSources "." default).result = .ok report
          ∧ Collector.skipWarning ⟨"./c.cpp", "c.cpp", 1⟩ .invalidText ∈ report.warnings
          ∧ ∀ other,
              (((ofSettings lenient).withSkipping false).run threeSources "." default).result
              ≠ .ok other)
      ∧ (((ofSettings lenient).withSkipping false).run threeSources "." default).result
        = .error (.unreadableInput "./c.cpp" .invalidText)
      ∧ (∃ report,
          (((ofSettings {}).withSkipping true).run (loneSource "in.cpp") "in.cpp" default).result
            = .ok report
          ∧ (((ofSettings {}).withSkipping false).run (loneSource "in.cpp") "in.cpp"
                default).result
            = .ok
                {
                  report.timed default with
                  settings := { report.settings with skipUnreadable := false }
                })
      ∧ (((ofSettings {}).withSkipping true).run (loneSource "in.cpp") "missing" default).result
        = .error (.unreadableInput "missing" .notFound)
      ∧ (loneSource "in.cpp").stat "missing" = .error .notFound := by
  have listed
      : (Walker.ofSettings ((ofSettings {}).withSkipping true).config.scan).list
          (loneSource "in.cpp") "in.cpp"
        = .ok (loneListing "in.cpp") :=
    eq_ok_of_toOption (by decide +kernel)
  obtain ⟨p, ok, silent⟩ :=
    exists_report_of_toOption default Progress.warnings [] Marker.checkSearch_default listed
      (by decide +kernel)
  have threeListed (skips : Bool)
      : (Walker.ofSettings ((ofSettings lenient).withSkipping skips).config.scan).list threeSources
          "."
        = .ok threeListing := by
    cases skips <;> exact eq_ok_of_toOption (by decide +kernel)
  obtain ⟨q, skipping, warned⟩ :=
    exists_report_of_toOption default (fun q => q.warnings.getLast?)
      (some (Collector.skipWarning ⟨"./c.cpp", "c.cpp", 1⟩ .invalidText))
      Marker.checkSearch_default (threeListed true) (by decide +kernel)
  have stops
      : (((ofSettings lenient).withSkipping false).run threeSources "." default).result
        = .error (.unreadableInput "./c.cpp" .invalidText) := by
    rw [run_result_eq_error_iff (threeListed false),
      collect_of_checkSearch Marker.checkSearch_default]
    decide +kernel
  have missing
      : (((ofSettings {}).withSkipping true).run (loneSource "in.cpp") "missing" default).result
        = .error (.unreadableInput "missing" .notFound) := by
    have refused
        : (Walker.ofSettings ((ofSettings {}).withSkipping true).config.scan).list
            (loneSource "in.cpp") "missing"
          = .error (.unreadableInput "missing" .notFound) := by
      decide +kernel
    rw [run, refused]
  obtain ⟨-, -, fails⟩ :=
    run_skipping (ofSettings {}) (loneSource "in.cpp") "missing" default default
  obtain ⟨succeeds, -⟩ :=
    run_skipping (ofSettings {}) (loneSource "in.cpp") "in.cpp" default default
  obtain ⟨succeedsToo, -⟩ := run_skipping (ofSettings lenient) threeSources "." default default
  have inWarnings := List.mem_of_getLast? warned
  refine ⟨⟨_, skipping, inWarnings, fun other agrees => ?_⟩, stops,
    ⟨_, ok, (succeeds _).mpr ⟨_, ok, fun w member => ?_, rfl⟩⟩, missing, (fails _ _ missing).2⟩
  · obtain ⟨_, same, silentToo, -⟩ := (succeedsToo other).mp agrees
    obtain rfl := Except.ok.inj (skipping.symm.trans same)
    exact silentToo _ inWarnings (Collector.tellsOfSkip_skipWarning _ _)
  · rcases List.mem_append.mp member with skipped | said
    · cases skipped
    · rw [silent] at said
      cases said

end Casebook.Extraction
