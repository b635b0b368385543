import Casebook.Config.Basic
import Casebook.Json
import Casebook.Progress
import Casebook.Timestamp

/-! Reports of finished runs. -/

namespace Casebook

/-- How paths are put into texts. A path need not be UTF-8. One that is not has a string that stands
for it as well, for which `isText` does not hold, and what a report that counts by text shows for it
is `lossy`, which other paths may share. By default every path is a text.
-/
structure Spelling where
  isText : String → Bool := fun _ => true
  lossy : String → String := id
deriving Inhabited

/-- A path as a text. -/
def Spelling.shown (s : Spelling) (path : String) : String :=
  if s.isText path then path else s.lossy path

/-- The counts of a run, and how many cases came from each source, in the order of their paths. -/
structure Summary where
  filesScanned : Nat
  filesWithCases : Nat
  casesWritten : Nat
  bytesWritten : Nat
  firstIndex : Nat
  nextIndex : Nat
  elapsed : Duration
  casesBySource : List (String × Nat)
deriving DecidableEq, Repr, Inhabited

/-- The settings that a report repeats. -/
structure SettingsDigest where
  stem : String
  extension : String
  extensions : List String
  excludeDirs : List String
  strict : Bool
  skipUnreadable : Bool
deriving DecidableEq, Repr, Inhabited

/-- What a run did. Its paths are texts unless it says otherwise. -/
structure Report where
  root : String
  outputDirectory : String
  dryRun : Bool
  summary : Summary
  cases : List CaseRecord
  time : Timestamp
  warnings : List String
  settings : SettingsDigest
  isText : Bool := true
deriving DecidableEq, Repr, Inhabited

namespace Summary

/-- One more for a key, in a list of counts that is kept in the order of the keys. -/
def countOne (key : String) : List (String × Nat) → List (String × Nat)
  | [] => [(key, 1)]
  | (other, n) :: rest =>
    if key = other then (other, n + 1) :: rest
    else if key.toList < other.toList then (key, 1) :: (other, n) :: rest
    else (other, n) :: countOne key rest

/-- How often each text comes in a list, in the order of the texts. -/
def tally (keys : List String) : List (String × Nat) :=
  keys.foldl (fun counts key => countOne key counts) []

/-- The summary of a run that took some time. -/
def ofProgress (p : Progress) (elapsed : Duration) (spelling : Spelling := {}) : Summary :=
  let bySource := tally (p.cases.map (spelling.shown ·.source))
  {
    filesScanned := p.filesScanned
    filesWithCases := bySource.length
    casesWritten := p.casesWritten
    bytesWritten := p.bytesWritten
    firstIndex := p.firstIndex
    nextIndex := p.nextIndex
    elapsed := elapsed
    casesBySource := bySource
  }

end Summary

namespace SettingsDigest

/-- What a report repeats of some settings. -/
def ofConfig (c : Config) : SettingsDigest where
  stem := c.output.stem
  extension := c.output.extension
  extensions := c.scan.extensions
  excludeDirs := c.scan.excludeDirs
  strict := c.scan.strict
  skipUnreadable := c.scan.skipUnreadable

end SettingsDigest

/-- The readings of the clock that a report holds: when it was made and how long the run took. -/
structure Clock where
  now : Timestamp
  elapsed : Duration
deriving DecidableEq, Repr, Inhabited

namespace Report

/-- The report of a run. -/
def ofProgress (root outputDirectory : String) (p : Progress) (c : Config) (dryRun : Bool)
    (clock : Clock) (spelling : Spelling := {}) : Report where
  root := root
  outputDirectory := outputDirectory
  dryRun := dryRun
  summary := Summary.ofProgress p clock.elapsed spelling
  cases := p.cases
  time := clock.now
  warnings := p.warnings
  settings := SettingsDigest.ofConfig c
  isText :=
    spelling.isText root && spelling.isText outputDirectory
      && p.cases.all (spelling.isText ·.source)

/-- The run gave warnings. -/
def hasWarnings (r : Report) : Bool :=
  !r.warnings.isEmpty

/-- The file name of the case with a number, or the number where no case has it. -/
def fileName (r : Report) (index : Nat) : String :=
  match r.cases.find? (·.index = index) with
  | some c => c.fileName
  | none => toString index

/-- A short text on how much was read and which files were written. -/
def displaySummary (r : Report) : String :=
  let s := r.summary
  let counts := s!"Files scanned: {s.filesScanned}\nCases extracted: {s.casesWritten}\n"
  if s.casesWritten > 0 then
    let last := CaseNumber.previous s.nextIndex
    counts ++ s!"Output files: {r.fileName s.firstIndex} .. {r.fileName last}\n"
  else counts

/-- A case as JSON. -/
def caseJson (c : CaseRecord) : Json :=
  .object [
    ("index", .number c.index),
    ("file_name", .string c.fileName),
    ("source", .string c.source),
    ("line", .number c.line),
    ("delimiter", .string c.delimiter),
    ("lines", .number c.lines),
    ("bytes", .number c.bytes)
  ]

/-- A summary as JSON. -/
def summaryJson (s : Summary) : Json :=
  .object [
    ("files_scanned", .number s.filesScanned),
    ("files_with_cases", .number s.filesWithCases),
    ("cases_written", .number s.casesWritten),
    ("bytes_written", .number s.bytesWritten),
    ("first_index", .number s.firstIndex),
    ("next_index", .number s.nextIndex),
    ("extraction_duration", .object [
      ("secs", .number s.elapsed.seconds),
      ("nanos", .number s.elapsed.nanos)
    ]),
    ("cases_by_source", .object (s.casesBySource.map fun (source, n) => (source, .number n)))
  ]

/-- Texts as JSON. -/
def textsJson (texts : List String) : Json :=
  .array (texts.map Json.string)

/-- A digest of settings as JSON. -/
def settingsJson (d : SettingsDigest) : Json :=
  .object [
    ("stem", .string d.stem),
    ("extension", .string d.extension),
    ("extensions", textsJson d.extensions),
    ("exclude_dirs", textsJson d.excludeDirs),
    ("strict", .bool d.strict),
    ("skip_unreadable", .bool d.skipUnreadable)
  ]

/-- The report as JSON. -/
def toJson (r : Report) : Json :=
  .object [
    ("root", .string r.root),
    ("output_directory", .string r.outputDirectory),
    ("dry_run", .bool r.dryRun),
    ("extraction_summary", summaryJson r.summary),
    ("cases", .array (r.cases.map caseJson)),
    ("extraction_time", .string r.time.render),
    ("warnings", textsJson r.warnings),
    ("config_used", settingsJson r.settings)
  ]

end Report

end Casebook
