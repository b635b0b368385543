import Casebook.Proofs.Extraction.Contents
import Casebook.Proofs.Extraction.Lockstep
import Casebook.Proofs.Extraction.Sources

/-! Strict runs. A run that is strict about literals which are left open does what the same run does
that is not, up to the first of them, at which it stops.
-/

namespace Casebook.Extraction

/-- The run that is strict about literals which are left open, or the one that is not. -/
def withStrict (e : Extraction) (strict : Bool) : Extraction :=
  { e with config := { e.config with scan := { e.config.scan with strict := strict } } }

/-- The state in which a run has read some of its sources. -/
def stateBehind (e : Extraction) (t : Tree) (listing : Listing) (before : List Source)
    : Collecting :=
  e.collector.endOf before e.config.output.startIndex (e.begun t listing)

/-- A run stops at the first of its sources that has a literal left open in its text, as it reads
that. It leaves the tree in which it read the source, so it has written none of the source's cases.
-/
structure StopsAtOpenLiteral (e : Extraction) (t : Tree) (root : String) (listing : Listing)
    (before : List Source) (file : Source) (u : OpenLiteral)
    : Prop where
  left
    : (e.stateBehind t listing before).tree.openLiteral? e.config.scan.marker file = some u
  first
    : ∀ front other rest, before = front ++ other :: rest →
        (e.stateBehind t listing front).tree.openLiteral? e.config.scan.marker other = none
  tree : (e.ended t root).tree = (e.stateBehind t listing before).tree
  cases : (e.ended t root).progress.cases = (e.stateBehind t listing before).progress.cases

variable {e : Extraction} {t : Tree} {root : String} {clock clock' : Clock}

/-- No walk complains of literals that are left open. -/
theorem stricterThan_withStrict (e : Extraction)
    : (e.withStrict true).StricterThan (e.withStrict false) Collector.TellsOfDiscard where
  marker := rfl
  output := rfl
  dryRun := rfl
  spelling := rfl
  collector := Collector.stricter_of_strict e.collector
  listing _ _ _ := by
    refine ⟨fun listed => ⟨listed, fun _ skipped => ?_⟩, And.left⟩
    have skip : Collector.TellsOfSkip _ := .inl (Walker.isComplaint_of_skipped listed skipped)
    exact skip.not_tellsOfDiscard

/-- A strict run that stops because of a literal which is left open does so at the first one. -/
theorem stopsAtOpenLiteral_of_failed {path delimiter : String} {line : Nat}
    (strict : e.config.scan.strict = true)
    (failed : (e.run t root clock).result = .error (.unterminatedLiteral path line delimiter))
    : ∃ listing before file behind u,
        (Walker.ofSettings e.config.scan).list t root = .ok listing
        ∧ listing.files = before ++ file :: behind
        ∧ (path = file.path ∧ line = u.line ∧ delimiter = u.delimiter)
        ∧ e.StopsAtOpenLiteral t root listing before file u := by
  cases listed : (Walker.ofSettings e.config.scan).list t root with
  | error failure =>
    have stopped : (e.run t root clock).result = .error failure := by rw [run, listed]
    rcases Walker.list_eq_error listed with ⟨_, -, rfl⟩ | ⟨-, _, _, -, rfl⟩ <;>
      cases stopped.symm.trans failed
  | ok listing =>
    obtain ⟨stopped, ends⟩ := collectRest_of_failed listed failed (by simp) (by simp)
    obtain ⟨before, file, behind, parts, stops, collects⟩ :=
      Collector.exists_failed_of_collectRest (e.nextIndex_begun t listing) stopped
    obtain ⟨u, left, samePath, sameLine, sameDelimiter, last⟩ :=
      Collector.openLiteral?_of_failed rfl stops
    refine ⟨listing, before, file, behind, u, rfl, parts, ⟨samePath, sameLine, sameDelimiter⟩,
      left, fun front other rest within => ?_, ?_, ?_⟩
    · obtain ⟨after, ok⟩ := collects front other rest within
      exact Collector.openLiteral?_eq_none_of_strict rfl strict ok
    · rw [ends, last]
      rfl
    · rw [ends, last]
      rfl

/-- A strict run succeeds exactly where the same run that is not strict does without telling of a
literal which it discarded. Then both give the same report, but for that setting and the readings of
the clock, and leave the same tree. Where a strict run stops because of a literal that is left open,
that is in the first source with one, and none of the cases of that source has been written.
-/
theorem run_strict (e : Extraction) (t : Tree) (root : String) (clock clock' : Clock)
    : (∀ report,
          ((e.withStrict true).run t root clock).result = .ok report
            ↔ ∃ lenient,
                ((e.withStrict false).run t root clock').result = .ok lenient
                ∧ (∀ w ∈ lenient.warnings, ¬ Collector.TellsOfDiscard w)
                ∧ report
                  = {
                      lenient.timed clock with
                      settings := { lenient.settings with strict := true }
                    })
      ∧ (∀ report, ((e.withStrict true).run t root clock).result = .ok report →
          ((e.withStrict false).run t root clock').tree
          = ((e.withStrict true).run t root clock).tree)
      ∧ ∀ path line delimiter,
          ((e.withStrict true).run t root clock).result
            = .error (.unterminatedLiteral path line delimiter) →
          ∃ listing before file behind u,
            (Walker.ofSettings e.config.scan).list t root = .ok listing
            ∧ listing.files = before ++ file :: behind
            ∧ (path = file.path ∧ line = u.line ∧ delimiter = u.delimiter)
            ∧ (e.withStrict true).StopsAtOpenLiteral t root listing before file u := by
  refine ⟨fun report => ?_, fun report ok => (stricterThan_withStrict e).run_tree_eq ok,
    fun path line delimiter failed => stopsAtOpenLiteral_of_failed rfl failed⟩
  refine ((stricterThan_withStrict e).run_eq_ok_iff clock clock').trans ?_
  refine exists_congr fun lenient => and_congr_right fun ok => and_congr_right fun _ => ?_
  rw [settings_of_run ok]
  rfl

/-- A strict run stops at the literal that the second of three sources leaves open, and it succeeds
with a source that leaves none open.
-/
theorem run_strict_three_sources
    : (((ofSettings lenient).withStrict true).run threeSources "." default).result
        = .error (.unterminatedLiteral "./b.cpp" 4 "b")
      ∧ (∃ listing before file behind u,
          (Walker.ofSettings lenient.scan).list threeSources "." = .ok listing
          ∧ listing.files = before ++ file :: behind
          ∧ ("./b.cpp" = file.path ∧ 4 = u.line ∧ "b" = u.delimiter)
          ∧ ((ofSettings lenient).withStrict true).StopsAtOpenLiteral threeSources "." listing
              before file u)
      ∧ ∃ report,
          (((ofSettings {}).withStrict false).run (loneSource "in.cpp") "in.cpp" default).result
            = .ok report
          ∧ (((ofSettings {}).withStrict true).run (loneSource "in.cpp") "in.cpp" default).result
            = .ok
                {
                  report.timed default with
                  settings := { report.settings with strict := true }
                } := by
  have failed : (((ofSettings lenient).withStrict true).run threeSources "." default).result
      = .error (.unterminatedLiteral "./b.cpp" 4 "b") := by
    have listed
        : (Walker.ofSettings ((ofSettings lenient).withStrict true).config.scan).list threeSources
            "."
          = .ok threeListing :=
      eq_ok_of_toOption (by decide +kernel)
    rw [run_result_eq_error_iff listed, collect_of_checkSearch Marker.checkSearch_default]
    decide +kernel
  have listed
      : (Walker.ofSettings ((ofSettings {}).withStrict false).config.scan).list
          (loneSource "in.cpp") "in.cpp"
        = .ok (loneListing "in.cpp") :=
    eq_ok_of_toOption (by decide +kernel)
  obtain ⟨p, ok, silent⟩ :=
    exists_report_of_toOption default Progress.warnings [] Marker.checkSearch_default listed
      (by decide +kernel)
  obtain ⟨-, -, stops⟩ := run_strict (ofSettings lenient) threeSources "." default default
  obtain ⟨succeeds, -⟩ := run_strict (ofSettings {}) (loneSource "in.cpp") "in.cpp" default default
  refine ⟨failed, stops _ _ _ failed, _, ok, (succeeds _).mpr ⟨_, ok, fun w member => ?_, rfl⟩⟩
  rcases List.mem_append.mp member with skipped | said
  · cases skipped
  · rw [silent] at said
    cases said

end Casebook.Extraction
