import Casebook.Proofs.Collector.Sources
import Casebook.Proofs.Walk.Skipping

/-! Collectors in lockstep. Of two collectors one may be stricter: it refuses a source about which
the other only warns. Both do the same up to the first such source, so the stricter one succeeds
exactly where the other does without such a warning.
-/

namespace Casebook.Collector

/-- What a stricter collector makes of a source that another one takes up in the same state. They
agree and nothing of a kind is to be said of the source, or something of the kind is to be said and
the stricter one refuses it.
-/
inductive AgreesOrRefuses (strict k : Collector) (kind : String → Prop) (file : Source)
    (counter : Nat) (s : Collecting)
    : Prop
  | agrees (same : strict.collectFile file counter s = k.collectFile file counter s)
    (silent : ∀ w, s.tree.warningOf? k.marker file = some w → ¬ kind w)
  | refuses {failure warning}
    (refused : (strict.collectFile file counter s).1 = .error failure)
    (said : s.tree.warningOf? k.marker file = some warning) (ofKind : kind warning)

/-- One collector is stricter than another about sources of which something of a kind is to be said.
-/
def Stricter (strict k : Collector) (kind : String → Prop) : Prop :=
  ∀ file counter s, strict.AgreesOrRefuses k kind file counter s

/-- How a stricter run ends beside another one. Both end the same, and a success comes without a
warning of the kind, or the stricter one fails, and a success of the other comes with one.
-/
inductive InStep (kind : String → Prop) (strict lax : Collected) : Prop
  | together (same : strict = lax)
    (silent : ∀ p, lax.result = .ok p → ∀ w ∈ p.warnings, ¬ kind w)
  | apart {failure} (refused : strict.result = .error failure)
    (said : ∀ p, lax.result = .ok p → ∃ w ∈ p.warnings, kind w)

variable {k strict : Collector} {kind : String → Prop} {start s : Collecting}
  {written : List (Source × Literal)} {files : List Source} {counter : Nat} {p : Progress}
  {failure : Failure}

/-- The stricter run succeeds exactly where the other does without a warning of the kind. -/
theorem InStep.result_eq_ok_iff {strict lax : Collected} (inStep : InStep kind strict lax)
    : strict.result = .ok p ↔ lax.result = .ok p ∧ ∀ w ∈ p.warnings, ¬ kind w := by
  cases inStep with
  | together same silent =>
    rw [same]
    exact ⟨fun ok => ⟨ok, silent p ok⟩, And.left⟩
  | apart refused said =>
    rw [refused]
    refine ⟨nofun, fun ⟨ok, silent⟩ => ?_⟩
    obtain ⟨w, member, ofKind⟩ := said p ok
    exact absurd ofKind (silent w member)

/-- Where the stricter run succeeds both end the same. -/
theorem InStep.eq_of_ok {strict lax : Collected} (inStep : InStep kind strict lax)
    (ok : strict.result = .ok p)
    : strict = lax := by
  cases inStep with
  | together same => exact same
  | apart refused => exact absurd (ok.symm.trans refused) nofun

/-- What a run has warned of it does not take back. -/
theorem Reaches.warnings_subset (reached : k.Reaches start written s)
    : start.progress.warnings ⊆ s.progress.warnings := by
  induction reached with
  | here => exact List.Subset.refl _
  | enter _ _ ih => exact ih
  | warn _ _ ih => exact List.subset_append_of_subset_left _ ih
  | write _ _ ih => exact ih

/-- A run over sources that succeeds ends with all warnings that it began with. -/
theorem warnings_subset_of_collectRest (next : s.progress.nextIndex = counter)
    (ok : (k.collectRest files counter s).result = .ok p)
    : s.progress.warnings ⊆ p.warnings := by
  obtain ⟨_, _, reached, -, rfl⟩ := collectRest_reaches (k := k) files next ok
  exact reached.warnings_subset

/-- A run over sources fails at the first one if that is refused. -/
theorem collectRest_of_refused {file : Source}
    (refused : (k.collectFile file counter s).1 = .error failure) (rest : List Source)
    : (k.collectRest (file :: rest) counter s).result = .error failure := by
  rw [collectRest]
  cases collected : k.collectFile file counter s with
  | mk outcome after =>
    rw [collected] at refused
    obtain rfl : outcome = .error failure := refused
    rfl

/-- A stricter run over sources keeps in step with the other up to the first source that it refuses,
of which the other warns. By induction on the sources.
-/
theorem Stricter.collectRest_inStep (stricter : strict.Stricter k kind)
    (next : s.progress.nextIndex = counter) (silent : ∀ w ∈ s.progress.warnings, ¬ kind w)
    : InStep kind (strict.collectRest files counter s) (k.collectRest files counter s) := by
  induction files generalizing counter s with
  | nil =>
    refine .together rfl fun p ok => ?_
    cases ok
    exact silent
  | cons file rest ih =>
    cases stricter file counter s with
    | refuses refused said ofKind =>
      -- The other run has warned of the source by the time it is behind it.
      refine .apart (collectRest_of_refused refused rest) fun p ok => ?_
      rw [collectRest] at ok
      cases collected : k.collectFile file counter s with
      | mk outcome after =>
        rw [collected] at ok
        cases outcome with
        | error failure => cases ok
        | ok counter' =>
          obtain ⟨-, counted, warned⟩ := collectFile_ok next collected
          refine ⟨_, warnings_subset_of_collectRest counted.symm ok ?_, ofKind⟩
          rw [warned, said]
          exact List.mem_append_right _ List.mem_cons_self
    | agrees same quiet =>
      rw [collectRest, collectRest, same]
      cases collected : k.collectFile file counter s with
      | mk outcome after =>
        cases outcome with
        | error failure =>
          refine .together rfl fun p ok => ?_
          cases ok
        | ok counter' =>
          obtain ⟨-, counted, warned⟩ := collectFile_ok next collected
          have stillSilent : ∀ w ∈ after.progress.warnings, ¬ kind w := by
            intro w member
            rw [warned, List.mem_append, Option.mem_toList] at member
            exact member.elim (silent w) (quiet w)
          dsimp only
          cases ih counted.symm stillSilent with
          | together same silent => exact .together (by rw [same]) silent
          | apart refused said => exact .apart refused said

/-- A stricter run with the same writer keeps in step from the start. -/
theorem Stricter.collectFiles_inStep (stricter : strict.Stricter k kind)
    (writer : strict.writer = k.writer) (t : Tree) (files : List Source) (first : Nat)
    : InStep kind (strict.collectFiles t files first) (k.collectFiles t files first) := by
  rw [collectFiles, collectFiles, writer]
  cases k.writer.prepare t with
  | mk outcome tree =>
    cases outcome with
    | error failure => exact .together rfl nofun
    | ok => exact stricter.collectRest_inStep rfl nofun

-----------------------------------------------------------------------------------------
-- Open literals and unreadable sources
-----------------------------------------------------------------------------------------

/-- A warning tells of a literal that was left open. -/
def TellsOfDiscard (warning : String) : Prop :=
  Text.BeginsWith warning "Discarded unterminated literal"

/-- A warning tells of something that was skipped because it could not be read. -/
def TellsOfSkip (warning : String) : Prop :=
  Walker.IsComplaint warning ∨ Text.BeginsWith warning "Skipped unreadable "

theorem tellsOfDiscard_discardWarning (file : Source) (u : OpenLiteral)
    : TellsOfDiscard (discardWarning file u) := by
  have front
      : Text.BeginsWith "Discarded unterminated literal in " "Discarded unterminated literal" := by
    rw [Text.BeginsWith]
    decide +kernel
  exact ((((front.append _).append _).append _).append _).append _

theorem tellsOfSkip_skipWarning (file : Source) (cause : IoError)
    : TellsOfSkip (skipWarning file cause) :=
  .inr (((Text.beginsWith_append "Skipped unreadable " _).append _).append _)

/-- No warning tells of both. -/
theorem TellsOfSkip.not_tellsOfDiscard {warning : String} (skip : TellsOfSkip warning)
    : ¬ TellsOfDiscard warning := by
  rcases skip with (scan | stat) | skipped
  · exact scan.unlike (by decide +kernel)
  · exact stat.unlike (by decide +kernel)
  · exact skipped.unlike (by decide +kernel)

/-- Literals are written alike by collectors with one writer, by induction on them. -/
theorem writeAll_congr {k k' : Collector} (same : k'.writer = k.writer) (file : Source)
    (ls : List Literal) (counter : Nat) (s : Collecting)
    : k'.writeAll file ls counter s = k.writeAll file ls counter s := by
  induction ls generalizing counter s with
  | nil => rfl
  | cons l rest ih => simp only [writeAll, recordOf, same, ih]

/-- A strict collector refuses a source with a literal that is left open. One that is not strict
tells of that, and both agree on all other sources.
-/
theorem stricter_of_strict (k : Collector)
    : ({ k with strict := true } : Collector).Stricter { k with strict := false }
        TellsOfDiscard := by
  intro file counter s
  cases read : s.tree.readText file.path with
  | error cause =>
    refine .agrees ?_ fun w said => ?_
    · simp only [collectFile, read]
    · rw [Tree.warningOf?, read] at said
      cases said
      exact (tellsOfSkip_skipWarning file cause).not_tellsOfDiscard
  | ok text =>
    cases ends : (k.marker.scan text).unterminated with
    | none =>
      refine .agrees ?_ fun w said => ?_
      · simp only [collectFile, read, ends]
        refine writeAll_congr ?_ file _ counter _
        rfl
      · simp only [Tree.warningOf?, read, ends] at said
        cases said
    | some u =>
      have refused
          : (({ k with strict := true } : Collector).collectFile file counter s).1
            = .error (.unterminatedLiteral file.path u.line u.delimiter) := by
        simp only [collectFile, read, ends, if_true]
      refine .refuses refused ?_ (tellsOfDiscard_discardWarning file u)
      simp only [Tree.warningOf?, read, ends, Option.map_some]

/-- A collector that skips nothing refuses a source that is no text. One that skips such sources
tells of that, and both agree on all other sources.
-/
theorem stricter_of_not_skipUnreadable (k : Collector)
    : ({ k with skipUnreadable := false } : Collector).Stricter { k with skipUnreadable := true }
        TellsOfSkip := by
  intro file counter s
  cases read : s.tree.readText file.path with
  | error cause =>
    have refused
        : (({ k with skipUnreadable := false } : Collector).collectFile file counter s).1
          = .error (.unreadableInput file.path cause) := by
      simp only [collectFile, read, Bool.false_eq_true, if_false]
    refine .refuses refused ?_ (tellsOfSkip_skipWarning file cause)
    simp only [Tree.warningOf?, read]
  | ok text =>
    refine .agrees ?_ fun w said skip => ?_
    · have writes (told : Collecting)
          : ({ k with skipUnreadable := false } : Collector).writeAll file
              (k.marker.scan text).literals counter told
            = ({ k with skipUnreadable := true } : Collector).writeAll file
                (k.marker.scan text).literals counter told := by
        refine writeAll_congr ?_ file _ counter told
        rfl
      simp only [collectFile, read, writes]
    · simp only [Tree.warningOf?, read] at said
      obtain ⟨u, -, rfl⟩ := Option.map_eq_some_iff.mp said
      exact skip.not_tellsOfDiscard (tellsOfDiscard_discardWarning file u)

end Casebook.Collector
