import Casebook.Proofs.Console.Telling
import Casebook.Proofs.Extraction.Parts

/-! What a run has to tell, from its beginning to its end. It hangs neither on the console of the
run nor, but for the readings in the report, on the clock: what is printed is what the console makes
of it.
-/

namespace Casebook

/-- The same with other readings of the clock. -/
def Telling.timed (clock : Clock) : Telling → Telling
  | .report r => .report (r.timed clock)
  | other => other

/-- The thing tells how a run ended. -/
def Telling.isEnding : Telling → Bool
  | failure _ | report _ => true
  | _ => false

/-- How a run ended is the last thing that it tells. -/
def Telling.ofResult : Except Failure Report → Telling
  | .ok r => .report r
  | .error f => .failure f

namespace Extraction

/-- The run with another console. -/
def printingOn (e : Extraction) (console : Console) : Extraction :=
  { e with console := console }

/-- What a run has to tell of the sources that it has listed, before it reads them. -/
def toldOfListing (listing : Listing) : List Telling :=
  listing.skipped.map .warning
    ++ [.info s!"Found {listing.files.length} files to scan",
      .debug s!"Scanning {listing.totalBytes} bytes of source",
      .start "Extracting raw string literals"]

/-- What a run has to tell before it ends. -/
def told (e : Extraction) (t : Tree) (root : String) : List Telling :=
  (if e.dryRun then [.info "DRY RUN MODE - No files will be written"] else [])
    ++ .start s!"Walking {root}"
      :: match (Walker.ofSettings e.config.scan).list t root with
        | .error _ => []
        | .ok listing =>
          toldOfListing listing
            ++ match (e.collect t listing).result with
              | .error _ => []
              | .ok progress => progress.warnings.map .warning

/-- All that a run has to tell. -/
def tellings (e : Extraction) (t : Tree) (root : String) (clock : Clock) : List Telling :=
  e.told t root ++ [.ofResult (e.run t root clock).result]

variable (e : Extraction) (t : Tree) (root : String) (clock : Clock)

/-- What a run prints of its listing is what it has to tell of it. -/
theorem listingPrints_eq (listing : Listing)
    : e.listingPrints listing = (toldOfListing listing).flatMap e.console.tell := by
  simp [listingPrints, toldOfListing, Console.tell, List.flatMap_append, List.flatMap_map]

/-- A run prints all that it has to tell, thing by thing and in order. -/
theorem runAndTell_printed
    : (e.runAndTell t root clock).printed
      = (e.tellings t root clock).flatMap e.console.tell := by
  have begins
      : ((if e.dryRun then [Telling.info "DRY RUN MODE - No files will be written"] else [])
            ++ [Telling.start s!"Walking {root}"]).flatMap e.console.tell
        = (if e.dryRun then e.console.info "DRY RUN MODE - No files will be written" else [])
            ++ e.console.start s!"Walking {root}" := by
    cases e.dryRun <;> simp [Console.tell]
  have ends (result : Except Failure Report)
      : [Telling.ofResult result].flatMap e.console.tell = e.closingPrints result := by
    cases result <;> simp [Telling.ofResult, closingPrints, Console.tell]
  have warns (warnings : List String)
      : (warnings.map .warning).flatMap e.console.tell
        = warnings.flatMap e.console.warning := by
    simp [List.flatMap_map, Console.tell]
  unfold runAndTell tellings told
  rw [List.flatMap_append, ends, List.append_cons, List.flatMap_append, begins]
  unfold run
  cases (Walker.ofSettings e.config.scan).list t root with
  | error failure => simp
  | ok listing =>
    dsimp only
    rw [List.flatMap_append, ← listingPrints_eq]
    cases (e.collect t listing).result with
    | error failure => simp
    | ok progress => simp [warns]

/-- What a run does and how it ends does not hang on its console. -/
theorem run_printingOn (console : Console)
    : ((e.printingOn console).run t root clock).result = (e.run t root clock).result
      ∧ ((e.printingOn console).run t root clock).tree = (e.run t root clock).tree := by
  have same (listing : Listing) : (e.printingOn console).collect t listing = e.collect t listing :=
    rfl
  unfold run
  rw [show (e.printingOn console).config = e.config from rfl]
  cases (Walker.ofSettings e.config.scan).list t root with
  | error failure => exact ⟨rfl, rfl⟩
  | ok listing =>
    dsimp only
    rw [same]
    cases (e.collect t listing).result with
    | error failure => exact ⟨rfl, rfl⟩
    | ok progress => exact ⟨rfl, rfl⟩

/-- Another clock changes nothing but the readings in the report. -/
theorem run_result_timed (other : Clock)
    : (e.run t root other).result = (e.run t root clock).result.map (·.timed other) := by
  unfold run
  cases (Walker.ofSettings e.config.scan).list t root with
  | error failure => rfl
  | ok listing =>
    dsimp only
    cases (e.collect t listing).result with
    | error failure => rfl
    | ok progress => rfl

/-- What a run has to tell does not hang on its console. -/
theorem tellings_printingOn (console : Console)
    : (e.printingOn console).tellings t root clock = e.tellings t root clock := by
  unfold tellings
  rw [(e.run_printingOn t root clock console).1]
  rfl

/-- How a run ends is not told before the end. -/
theorem isEnding_of_mem_told
    : ∀ telling ∈ e.told t root, telling.isEnding = false := by
  have begins
      : ∀ telling ∈
            if e.dryRun then [Telling.info "DRY RUN MODE - No files will be written"] else [],
          telling.isEnding = false := by
    cases e.dryRun <;> simp [Telling.isEnding]
  have ofListing (listing : Listing)
      : ∀ telling ∈ toldOfListing listing, telling.isEnding = false := by
    rw [toldOfListing, List.forall_mem_append, List.forall_mem_map]
    exact ⟨fun _ _ => rfl, by simp [Telling.isEnding]⟩
  unfold told
  rw [List.forall_mem_append, List.forall_mem_cons]
  refine ⟨begins, rfl, ?_⟩
  cases (Walker.ofSettings e.config.scan).list t root with
  | error failure => simp
  | ok listing =>
    dsimp only
    rw [List.forall_mem_append]
    refine ⟨ofListing listing, ?_⟩
    cases (e.collect t listing).result with
    | error failure => simp
    | ok progress => simp [Telling.isEnding]

/-- Before a run ends it tells of no readings of the clock. -/
theorem map_timed_told (other : Clock)
    : (e.told t root).map (·.timed other) = e.told t root := by
  have each : ∀ telling ∈ e.told t root, telling.timed other = telling := by
    intro telling member
    have early := e.isEnding_of_mem_told t root telling member
    cases telling with
    | report r => cases early
    | warning | info | debug | start | failure => rfl
  rw [List.map_congr_left each, List.map_id']

/-- At another time a run has the same to tell, with the readings of that time. -/
theorem tellings_timed (other : Clock)
    : e.tellings t root other = (e.tellings t root clock).map (·.timed other) := by
  have late (result : Except Failure Report)
      : (Telling.ofResult result).timed other
        = .ofResult (result.map (·.timed other)) := by
    cases result <;> rfl
  unfold tellings
  rw [List.map_append, map_timed_told, List.map_singleton, late, ← run_result_timed]

end Extraction

end Casebook
