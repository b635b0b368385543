import Casebook.Proofs.Collector.Lockstep
import Casebook.Proofs.Console.Message
import Casebook.Proofs.Extraction.Contents
import Casebook.Proofs.Extraction.Course

/-! What a run tells of the literals that it discards. It collects its warnings while it reads its
sources and prints them behind the last one, so a run that succeeds tells of every literal that is
left open in a source, and a run that fails on the way tells of none.
-/

namespace Casebook

namespace Collector

/-- A run over sources gets to one of them and takes it up in some state, with all sources before it
collected.
-/
inductive TakesUp (k : Collector) : List Source → Nat → Collecting → Source → Collecting → Prop
  | first {file rest counter s} : k.TakesUp (file :: rest) counter s file s
  | later {other rest counter s next after file taken}
    (past : k.collectFile other counter s = (.ok next, after))
    (onward : k.TakesUp rest next after file taken)
    : k.TakesUp (other :: rest) counter s file taken

variable {k : Collector} {files : List Source} {counter : Nat} {s taken : Collecting}
  {file : Source} {p : Progress}

/-- A run over sources that succeeds has said of each source that it took up what was to be said, by
induction on the sources before it.
-/
theorem TakesUp.warned (takes : k.TakesUp files counter s file taken)
    (next : s.progress.nextIndex = counter)
    (ok : (k.collectRest files counter s).result = .ok p) {warning : String}
    (said : taken.tree.warningOf? k.marker file = some warning)
    : warning ∈ p.warnings := by
  induction takes with
  | @first file rest counter s =>
    rw [collectRest] at ok
    cases collected : k.collectFile file counter s with
    | mk outcome after =>
      rw [collected] at ok
      cases outcome with
      | error failure => cases ok
      | ok counter' =>
        obtain ⟨-, counted, warned⟩ := collectFile_ok next collected
        refine warnings_subset_of_collectRest counted.symm ok ?_
        rw [warned, said]
        exact List.mem_append_right _ List.mem_cons_self
  | @later other _ _ s _ _ _ _ past _ ih =>
    rw [collectRest, past] at ok
    exact ih (collectFile_ok next past).2.1.symm ok said

end Collector

namespace Extraction

/-- The run reads a source and gets a text from it. -/
def Reads (e : Extraction) (t : Tree) (root : String) (file : Source) (text : String) : Prop :=
  ∃ listing taken,
    (Walker.ofSettings e.config.scan).list t root = .ok listing
    ∧ Collector.ofConfig e.config e.dryRun = .ok e.collector
    ∧ (e.writer.prepare t).1 = .ok ()
    ∧ e.collector.TakesUp listing.files e.config.output.startIndex (e.begun t listing) file taken
    ∧ taken.tree.readText file.path = .ok text

/-- The warning about a literal that was left open, as the run prints it. -/
def discardPrint (e : Extraction) (file : Source) (u : OpenLiteral) : Printed :=
  e.console.message .warning (Collector.discardWarning file u)

/-- What a run prints before it walks. -/
def openingPrints (e : Extraction) (root : String) : List Printed :=
  (if e.dryRun then e.console.info "DRY RUN MODE - No files will be written" else [])
    ++ e.console.start s!"Walking {root}"

variable {e : Extraction} {t : Tree} {root : String} {clock : Clock} {listing : Listing}
  {p : Progress} {report : Report} {failure : Failure} {file : Source} {u : OpenLiteral}

-----------------------------------------------------------------------------------------
-- What is printed of the sources
-----------------------------------------------------------------------------------------

/-- A run that succeeds prints last what was said of its sources. -/
theorem run_printed_of_ok (listed : (Walker.ofSettings e.config.scan).list t root = .ok listing)
    (ended : (e.collect t listing).result = .ok p)
    : (e.run t root clock).printed
      = e.openingPrints root ++ e.listingPrints listing
        ++ p.warnings.flatMap e.console.warning := by
  unfold run
  rw [listed]
  dsimp only
  rw [ended]
  rfl

/-- A run that fails prints nothing behind what it tells of its listing. -/
theorem run_printed_of_error (failed : (e.run t root clock).result = .error failure)
    : (e.run t root clock).printed = e.openingPrints root
      ∨ ∃ listing,
          (Walker.ofSettings e.config.scan).list t root = .ok listing
          ∧ (e.run t root clock).printed
            = e.openingPrints root ++ e.listingPrints listing := by
  cases listed : (Walker.ofSettings e.config.scan).list t root with
  | error cause =>
    left
    unfold run
    rw [listed]
    rfl
  | ok listing =>
    right
    refine ⟨listing, rfl, ?_⟩
    have stopped := (run_result_eq_error_iff listed).mp failed
    unfold run
    rw [listed]
    dsimp only
    rw [stopped]
    rfl

/-- What is told before the walk is told of no literal. -/
theorem discardPrint_not_mem_openingPrints (e : Extraction) (root : String) (file : Source)
    (u : OpenLiteral)
    : e.discardPrint file u ∉ e.openingPrints root := by
  intro member
  rcases List.mem_append.mp member with preview | walking
  · split at preview
    next => exact (Console.isNoWarning_of_mem_info preview).ne _ rfl
    next => cases preview
  · exact (Console.isNoWarning_of_mem_start walking).ne _ rfl

/-- What is told of a listing is told of no literal. The complaints of the walk are warnings as
well, but begin otherwise.
-/
theorem discardPrint_not_mem_listingPrints
    (listed : (Walker.ofSettings e.config.scan).list t root = .ok listing) (file : Source)
    (u : OpenLiteral)
    : e.discardPrint file u ∉ e.listingPrints listing := by
  intro member
  rw [listingPrints, List.mem_append, List.mem_append, List.mem_append] at member
  rcases member with ((skipped | found) | scanning) | extracting
  · obtain ⟨complaint, isSkipped, printed⟩ := List.mem_flatMap.mp skipped
    have ofDiscard := Collector.tellsOfDiscard_discardWarning file u
    unfold Console.warning at printed
    split at printed
    next =>
      -- The same message would begin with the fronts of both texts.
      have begins
          : Text.BeginsWith (e.discardPrint file u).text
              (e.console.front .warning ++ "Discarded unterminated literal") :=
        Console.message_beginsWith ofDiscard (by unfold Json.StaysAsIs; decide +kernel)
      have unlike {start : String} (stays : Json.StaysAsIs start)
          (other
            : ¬ "Discarded unterminated literal".toList <+: start.toList
              ∧ ¬ start.toList <+: "Discarded unterminated literal".toList)
          : ¬ Text.BeginsWith complaint start := by
        intro starts
        refine begins.unlike (b := e.console.front .warning ++ start) ?_ ?_
        · rwa [String.toList_append, String.toList_append, List.prefix_append_right_inj,
            List.prefix_append_right_inj]
        · rw [List.mem_singleton.mp printed]
          exact Console.message_beginsWith starts stays
      rcases Walker.isComplaint_of_skipped listed isSkipped with scan | stat
      · exact unlike (by unfold Json.StaysAsIs; decide +kernel) (by decide +kernel) scan
      · exact unlike (by unfold Json.StaysAsIs; decide +kernel) (by decide +kernel) stat
    next => cases printed
  · exact (Console.isNoWarning_of_mem_info found).ne _ rfl
  · exact (Console.isNoWarning_of_mem_debug scanning).ne _ rfl
  · exact (Console.isNoWarning_of_mem_start extracting).ne _ rfl

/-- A run that is not quiet tells of a literal which it found left open in a source, by the source's
path below the root and the number of the line, exactly if it succeeds. A run that fails keeps to
itself what it has discarded until then.
-/
theorem run_tells_discard_iff {text : String} (clock : Clock) (loud : e.console.quiet = false)
    (reads : e.Reads t root file text)
    (left : (e.config.scan.marker.scan text).unterminated = some u)
    : e.discardPrint file u ∈ (e.run t root clock).printed
      ↔ ∃ report, (e.run t root clock).result = .ok report := by
  obtain ⟨listing, taken, listed, usable, prepared, takes, read⟩ := reads
  constructor
  · intro told
    cases result : (e.run t root clock).result with
    | ok report => exact ⟨report, rfl⟩
    | error failure =>
      rcases run_printed_of_error result with printed | ⟨listing, listed, printed⟩
      · rw [printed] at told
        exact absurd told (e.discardPrint_not_mem_openingPrints root file u)
      · rw [printed] at told
        rcases List.mem_append.mp told with opening | listing
        · exact absurd opening (e.discardPrint_not_mem_openingPrints root file u)
        · exact absurd listing (discardPrint_not_mem_listingPrints listed file u)
  · rintro ⟨report, ok⟩
    obtain ⟨p, ended, -⟩ := (run_result_eq_ok_iff listed).mp ok
    have said
        : taken.tree.warningOf? e.collector.marker file
          = some (Collector.discardWarning file u) := by
      have sameMarker : e.collector.marker = e.config.scan.marker := rfl
      rw [Tree.warningOf?, read, sameMarker]
      dsimp only
      rw [left]
      rfl
    have collected := ended
    rw [collect_of_ok ended] at collected
    have warned := takes.warned (e.nextIndex_begun t listing) collected said
    rw [run_printed_of_ok listed ended]
    refine List.mem_append_right _ (List.mem_flatMap.mpr ⟨_, warned, ?_⟩)
    rw [Console.warning, Console.shows, loud, if_pos (by simp)]
    exact List.mem_singleton_self _

/-- A source with a literal that is left open, and one that is no text. -/
def openThenUnreadable : Tree :=
  .ofTop [("a.cpp", .file "R\"b(\nx\n".toUTF8), ("b.cpp", .file ⟨#[0xFF]⟩)]

/-- The source with the literal that is left open. -/
def openSource : Source where
  path := "./a.cpp"
  relativePath := "a.cpp"
  size := 7

/-- The listing of both sources. -/
def openListing : Listing where
  files := [openSource, { path := "./b.cpp", relativePath := "b.cpp", size := 1 }]

/-- The first source is read, whatever becomes of the second. -/
theorem reads_openSource {c : Config}
    (listed : (Walker.ofSettings c.scan).list openThenUnreadable "." = .ok openListing)
    (usable : c.scan.marker.checkSearch = .ok ())
    (prepared : ((ofSettings c).writer.prepare openThenUnreadable).1.toOption = some ())
    (read
      : (((ofSettings c).prepared openThenUnreadable).readText openSource.path).toOption
        = some "R\"b(\nx\n")
    : (ofSettings c).Reads openThenUnreadable "." openSource "R\"b(\nx\n" := by
  refine ⟨openListing, _, listed, ?_, eq_ok_of_toOption prepared, .first, eq_ok_of_toOption read⟩
  rw [ofConfig_eq, show (ofSettings c).config.scan.marker.checkSearch = .ok () from usable]
  rfl

/-- A run that skips the source which is no text tells of the literal in the other one. -/
theorem run_tells_discard_lenient
    : (ofSettings lenient).console.quiet = false
      ∧ (ofSettings lenient).Reads openThenUnreadable "." openSource "R\"b(\nx\n"
      ∧ (({} : Marker).scan "R\"b(\nx\n").unterminated = some ⟨1, "b"⟩
      ∧ (∃ report,
          ((ofSettings lenient).run openThenUnreadable "." default).result = .ok report)
      ∧ (ofSettings lenient).discardPrint openSource ⟨1, "b"⟩
          = ⟨.err, "! Discarded unterminated literal in a.cpp:1 (delimiter \"b\")"⟩
      ∧ (ofSettings lenient).discardPrint openSource ⟨1, "b"⟩
          ∈ ((ofSettings lenient).run openThenUnreadable "." default).printed := by
  have listed
      : (Walker.ofSettings (ofSettings lenient).config.scan).list openThenUnreadable "."
        = .ok openListing :=
    eq_ok_of_toOption (by decide +kernel)
  have reads := reads_openSource listed Marker.checkSearch_default (by decide +kernel)
    (by decide +kernel)
  have left : (({} : Marker).scan "R\"b(\nx\n").unterminated = some ⟨1, "b"⟩ := by decide +kernel
  obtain ⟨p, ok, -⟩ :=
    exists_report_of_toOption (e := ofSettings lenient) default Progress.nextIndex 0
      Marker.checkSearch_default listed (by decide +kernel)
  exact ⟨rfl, reads, left, ⟨_, ok⟩, by decide +kernel,
    (run_tells_discard_iff default rfl reads left).mpr ⟨_, ok⟩⟩

/-- Not every literal that is discarded is told of: a run that stops at the source which is no text
says nothing of the literal that it has discarded before.
-/
theorem not_every_discard_told
    : ¬ ∀ (e : Extraction) (t : Tree) (root : String) (clock : Clock) (file : Source)
          (text : String) (u : OpenLiteral),
          e.console.quiet = false
          → e.config.scan.strict = false
          → e.Reads t root file text
          → (e.config.scan.marker.scan text).unterminated = some u
          → e.discardPrint file u ∈ (e.run t root clock).printed := by
  intro always
  have listed : (Walker.ofSettings {}).list openThenUnreadable "." = .ok openListing :=
    eq_ok_of_toOption (by decide +kernel)
  have reads := reads_openSource (c := {}) listed Marker.checkSearch_default (by decide +kernel)
    (by decide +kernel)
  have told := always (ofSettings {}) openThenUnreadable "." default openSource _ ⟨1, "b"⟩ rfl rfl
    reads (by decide +kernel)
  have printed : ((ofSettings {}).run openThenUnreadable "." default).printed = [] := by
    have stopped
        : ((ofSettings {}).run openThenUnreadable "." default).result
          = .error (.unreadableInput "./b.cpp" .invalidText) := by
      rw [run_result_eq_error_iff listed, collect_of_checkSearch Marker.checkSearch_default]
      decide +kernel
    rcases run_printed_of_error stopped with same | ⟨_, again, same⟩
    · exact same
    · rw [same, ← Except.ok.inj (listed.symm.trans again)]
      rfl
  rw [printed] at told
  cases told

end Extraction

end Casebook
