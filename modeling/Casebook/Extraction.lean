import Casebook.Collector
import Casebook.Console.Report

/-! Extractions: listing the sources below a root, collecting their cases and telling about it
on the way.
-/

namespace Casebook

/-- A run that is to be made: its settings, how it prints, whether it only looks, and how it puts
paths into texts.
-/
structure Extraction where
  config : Config
  console : Console
  dryRun : Bool := false
  spelling : Spelling := {}
deriving Inhabited

/-- What a run ends with: its report or what stopped it, what it printed until then, and the tree
it leaves.
-/
structure Extraction.Outcome where
  result : Except Failure Report
  printed : List Printed
  tree : Tree

namespace Extraction

/-- What a run prints after it has listed its sources and before it reads them. -/
def listingPrints (e : Extraction) (listing : Listing) : List Printed :=
  listing.skipped.flatMap e.console.warning
    ++ e.console.info s!"Found {listing.files.length} files to scan"
    ++ e.console.debug s!"Scanning {listing.totalBytes} bytes of source"
    ++ e.console.start "Extracting raw string literals"

/-- The run over sources that were listed. -/
def collect (e : Extraction) (t : Tree) (listing : Listing) : Collected :=
  match Collector.ofConfig e.config e.dryRun with
  | .error failure => { result := .error failure, tree := t }
  | .ok collector => collector.collectFiles t listing.files e.config.output.startIndex

/-- Makes the run. It stops at the first failure, and cases written before it stay. -/
def run (e : Extraction) (t : Tree) (root : String) (clock : Clock) : Outcome :=
  let begun :=
    (if e.dryRun then e.console.info "DRY RUN MODE - No files will be written" else [])
      ++ e.console.start s!"Walking {root}"
  match (Walker.ofSettings e.config.scan).list t root with
  | .error failure => { result := .error failure, printed := begun, tree := t }
  | .ok listing =>
    let listed := begun ++ e.listingPrints listing
    let collected := e.collect t listing
    match collected.result with
    | .error failure => { result := .error failure, printed := listed, tree := collected.tree }
    | .ok progress =>
      let all := { progress with warnings := listing.skipped ++ progress.warnings }
      {
        result :=
          .ok
            (Report.ofProgress root e.config.output.directory all e.config e.dryRun clock
              e.spelling)
        printed := listed ++ progress.warnings.flatMap e.console.warning
        tree := collected.tree
      }

/-- What is printed when a run has ended. -/
def closingPrints (e : Extraction) (result : Except Failure Report) : List Printed :=
  match result with
  | .ok report => e.console.report report
  | .error failure => e.console.failure failure

/-- Makes a run and prints how it ended. -/
def runAndTell (e : Extraction) (t : Tree) (root : String) (clock : Clock) : Outcome :=
  let outcome := e.run t root clock
  { outcome with printed := outcome.printed ++ e.closingPrints outcome.result }

/-- Extracts all cases below a root into a directory, quietly and with the settings that a run
starts from.
-/
def into (t : Tree) (root directory : String) (clock : Clock) : Outcome :=
  let config : Config := { output := { directory := directory } }
  match config.check t with
  | .error failure => { result := .error failure, printed := [], tree := t }
  | .ok () =>
    let console := Console.ofOptions .plain 0 true false clock.now
    Extraction.run { config := config, console := console } t root clock

end Extraction

end Casebook
