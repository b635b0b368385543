import Casebook.Proofs.Console.Masked
import Casebook.Proofs.Console.Verbosity
import Casebook.Proofs.Extraction.Contents
import Casebook.Proofs.Extraction.Course

/-! Runs that are told of more and of less. A run that is more verbose prints all that a less
verbose one prints, and what a quiet run prints a run that is not quiet prints as well.
-/

namespace Casebook

namespace Extraction

/-- The run in some mode, at some verbosity and quiet or not, with its output to no terminal. -/
def printing (e : Extraction) (mode : Mode) (verbosity : Nat) (quiet : Bool) (clock : Clock)
    : Extraction :=
  e.printingOn (.ofOptions mode verbosity quiet false clock.now)

/-- The texts that such a run prints on a stream until it has told how it ended, in their order and
with the readings of the clock masked.
-/
def heard (e : Extraction) (t : Tree) (root : String) (mode : Mode) (verbosity : Nat)
    (quiet : Bool) (clock : Clock) (stream : Stream) : List String :=
  let outcome := (e.printing mode verbosity quiet clock).runAndTell t root clock
  (Printed.textsOn stream outcome.printed).map mode.masked

/-- Of two runs over a tree the second one is as verbose as the first or more so. Both print the
same on standard error, quiet or not, and on standard output the first prints some of what the
second prints, in the same order. If the first is quiet and the second is not, this holds of both
streams, whatever their verbosity. A quiet run that fails prints its failure on standard error, and
outside of JSON a quiet run that succeeds prints nothing.
-/
structure AddsOnly (e : Extraction) (t : Tree) (root : String) (mode : Mode) (v w : Nat)
    (clock other : Clock)
    : Prop where
  err
    : ∀ quiet,
        e.heard t root mode v quiet clock .err = e.heard t root mode w quiet other .err
  out
    : ∀ quiet,
        (e.heard t root mode v quiet clock .out).Sublist (e.heard t root mode w quiet other .out)
  quiet
    : ∀ loud verbosity stream,
        (e.heard t root mode verbosity true clock stream).Sublist
          (e.heard t root mode loud false other stream)
  quietFailure
    : ∀ verbosity failure, (e.run t root clock).result = .error failure →
        ∃ p ∈ ((e.printing mode verbosity true clock).runAndTell t root clock).printed,
          p.stream = .err
          ∧ p = (e.printing mode verbosity true clock).console.message .error failure.userMessage
  quietSuccess
    : mode ≠ .json →
        ∀ verbosity report, (e.run t root clock).result = .ok report →
          ((e.printing mode verbosity true clock).runAndTell t root clock).printed = []

variable {e : Extraction} {t : Tree} {root : String} {mode : Mode} {v w : Nat} {quiet : Bool}
  {clock other : Clock} {stream : Stream}

theorem textsOn_flatMap (tell : Telling → List Printed) (tellings : List Telling)
    : Printed.textsOn stream (tellings.flatMap tell)
      = tellings.flatMap fun telling => Printed.textsOn stream (tell telling) := by
  simp only [Printed.textsOn, List.filter_flatMap, List.map_flatMap]

/-- The texts on a stream are masked where they are printed. -/
theorem map_masked_textsOn (printed : List Printed)
    : (Printed.textsOn stream printed).map mode.masked
      = Printed.textsOn stream (printed.map (Printed.masked mode)) := by
  simp only [Printed.textsOn, List.filter_map, List.map_map]
  rfl

/-- What a run prints on a stream is what its console makes of each thing that is told. -/
theorem heard_eq
    : e.heard t root mode v quiet clock stream
      = (Printed.textsOn stream
          ((e.tellings t root clock).flatMap (e.printing mode v quiet clock).console.tell)).map
            mode.masked := by
  rw [heard, runAndTell_printed, printing, tellings_printingOn]

/-- With the readings of the clock masked a run prints the same at all times. -/
theorem heard_anytime (e : Extraction) (clock other : Clock)
    : e.heard t root mode v quiet clock stream = e.heard t root mode v quiet other stream := by
  rw [heard_eq, heard_eq, e.tellings_timed t root clock other, map_masked_textsOn,
    map_masked_textsOn, List.map_flatMap, List.map_flatMap, List.flatMap_map]
  congr 1
  refine List.flatMap_congr fun telling _ => ?_
  exact (e.printing mode v quiet clock).console.masked_tell other telling

/-- Without a terminal the verbosity and being quiet make no difference to how a text is printed. -/
theorem atMost_of_le (less : v ≤ w) (e : Extraction) (mode : Mode) (quiet : Bool) (clock : Clock)
    : (e.printing mode v quiet clock).console.AtMost (e.printing mode w quiet clock).console where
  mode := rfl
  colors := rfl
  now := rfl
  quiet := id
  verbosity := by cases quiet <;> simp [printing, printingOn, Console.ofOptions, less]

theorem atMost_of_quiet (e : Extraction) (mode : Mode) (v w : Nat) (clock : Clock)
    : (e.printing mode v true clock).console.AtMost (e.printing mode w false clock).console where
  mode := rfl
  colors := by simp [printing, printingOn, Console.ofOptions]
  now := rfl
  quiet := nofun
  verbosity := Nat.zero_le _

/-- A quiet run in a mode for people or in the plain one says nothing before it ends. -/
theorem tell_of_quiet {c : Console} (quiet : c.quiet = true) {telling : Telling}
    (early : telling.isEnding = false)
    : c.tell telling = [] := by
  cases telling with
  | warning | info | debug | start =>
    simp [Console.tell, Console.warning, Console.info, Console.debug, Console.start, Console.shows,
      quiet]
  | failure | report => cases early

/-- Verbosity only adds: for every tree, root, mode and any settings, of what a run prints without a
terminal, at any readings of the clock.
-/
theorem runAndTell_addsOnly (e : Extraction) (less : v ≤ w) (t : Tree) (root : String) (mode : Mode)
    (clock other : Clock)
    : e.AddsOnly t root mode v w clock other where
  err quiet := by
    rw [e.heard_anytime clock other, heard_eq, heard_eq, textsOn_flatMap, textsOn_flatMap]
    congr 1
    refine List.flatMap_congr fun telling _ => ?_
    exact (atMost_of_le less e mode quiet other).textsOn_err_tell rfl telling
  out quiet := by
    rw [e.heard_anytime clock other, heard_eq, heard_eq]
    exact (Printed.textsOn_sublist
      ((atMost_of_le less e mode quiet other).flatMap_tell_sublist _) .out).map _
  quiet loud verbosity stream := by
    rw [e.heard_anytime clock other, heard_eq, heard_eq]
    exact (Printed.textsOn_sublist
      ((e.atMost_of_quiet mode verbosity loud other).flatMap_tell_sublist _) stream).map _
  quietFailure verbosity failure failed := by
    refine ⟨_, ?_, ?_, rfl⟩
    · rw [runAndTell_printed, printing, tellings_printingOn, tellings, failed]
      simp [Telling.ofResult, Console.tell, Console.failure, Console.error]
    · cases mode <;> simp [printing, printingOn, Console.ofOptions, Console.message,
        Console.jsonMessage, Console.Kind.level, Console.Kind.stream, Console.err]
  quietSuccess notJson verbosity report succeeded := by
    have quiet : (e.printing mode verbosity true clock).console.quiet = true := rfl
    have before
        : (e.told t root).flatMap (e.printing mode verbosity true clock).console.tell = [] :=
      List.flatMap_eq_nil_iff.mpr fun telling member =>
        tell_of_quiet quiet (e.isEnding_of_mem_told t root telling member)
    rw [runAndTell_printed, printing, tellings_printingOn, tellings, succeeded, List.flatMap_append]
    rw [printing] at before
    rw [before]
    cases mode with
    | json => exact absurd rfl notJson
    | human => rfl
    | plain => rfl

/-- Of three sources the last is no text. A quiet run that skips it says nothing, and one that does
not says why it fails.
-/
theorem runAndTell_addsOnly_three_sources
    : 0 ≤ 2
      ∧ (ofSettings lenient).AddsOnly threeSources "." .plain 0 2 default default
      ∧ (((ofSettings lenient).printing .plain 0 true default).runAndTell threeSources "."
            default).printed
        = []
      ∧ ∃ p ∈ (((ofSettings {}).printing .plain 0 true default).runAndTell threeSources "."
            default).printed,
          p = ⟨.err, "ERROR: Could not read ./c.cpp: stream did not contain valid UTF-8"⟩ := by
  have listed : (Walker.ofSettings lenient.scan).list threeSources "." = .ok threeListing :=
    eq_ok_of_toOption (by decide +kernel)
  have listed' : (Walker.ofSettings {}).list threeSources "." = .ok threeListing :=
    eq_ok_of_toOption (by decide +kernel)
  have adds := (ofSettings lenient).runAndTell_addsOnly (Nat.zero_le 2) threeSources "." .plain
    default default
  have adds' := (ofSettings {}).runAndTell_addsOnly (Nat.zero_le 2) threeSources "." .plain
    default default
  obtain ⟨p, ok, -⟩ :=
    exists_report_of_toOption (e := ofSettings lenient) default Progress.nextIndex 3
      Marker.checkSearch_default listed (by decide +kernel)
  have failed
      : ((ofSettings {}).run threeSources "." default).result
        = .error (.unreadableInput "./c.cpp" .invalidText) := by
    rw [run_result_eq_error_iff listed', collect_of_checkSearch Marker.checkSearch_default]
    decide +kernel
  obtain ⟨told, member, -, same⟩ := adds'.quietFailure 0 _ failed
  refine ⟨Nat.zero_le 2, adds, adds.quietSuccess nofun 0 _ ok, told, member, same.trans ?_⟩
  decide +kernel

end Extraction

end Casebook
