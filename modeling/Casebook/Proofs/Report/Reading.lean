import Casebook.Proofs.Json.Reading
import Casebook.Report

/-! Reading a report from JSON, by the names of its fields, wherever they stand. -/

namespace Casebook

/-- The record of a case that a value tells of. -/
def CaseRecord.ofJson? (j : Json) : Option CaseRecord := do
  some {
    index := ← (← j.field? "index").number?
    fileName := ← (← j.field? "file_name").text?
    source := ← (← j.field? "source").text?
    line := ← (← j.field? "line").number?
    delimiter := ← (← j.field? "delimiter").text?
    lines := ← (← j.field? "lines").number?
    bytes := ← (← j.field? "bytes").number?
  }

/-- The length of time that a value tells of. -/
def Duration.ofJson? (j : Json) : Option Duration := do
  some (.of (← (← j.field? "secs").number?) (← (← j.field? "nanos").number?))

/-- The summary that a value tells of. -/
def Summary.ofJson? (j : Json) : Option Summary := do
  some {
    filesScanned := ← (← j.field? "files_scanned").number?
    filesWithCases := ← (← j.field? "files_with_cases").number?
    casesWritten := ← (← j.field? "cases_written").number?
    bytesWritten := ← (← j.field? "bytes_written").number?
    firstIndex := ← (← j.field? "first_index").number?
    nextIndex := ← (← j.field? "next_index").number?
    elapsed := ← Duration.ofJson? (← j.field? "extraction_duration")
    casesBySource := ← (← j.field? "cases_by_source").entries? Json.number?
  }

/-- The settings that a value tells of. -/
def SettingsDigest.ofJson? (j : Json) : Option SettingsDigest := do
  some {
    stem := ← (← j.field? "stem").text?
    extension := ← (← j.field? "extension").text?
    extensions := ← (← j.field? "extensions").items? Json.text?
    excludeDirs := ← (← j.field? "exclude_dirs").items? Json.text?
    strict := ← (← j.field? "strict").bool?
    skipUnreadable := ← (← j.field? "skip_unreadable").bool?
  }

namespace Report

/-- The report that a value tells of. -/
def ofJson? (j : Json) : Option Report := do
  some {
    root := ← (← j.field? "root").text?
    outputDirectory := ← (← j.field? "output_directory").text?
    dryRun := ← (← j.field? "dry_run").bool?
    summary := ← Summary.ofJson? (← j.field? "extraction_summary")
    cases := ← (← j.field? "cases").items? CaseRecord.ofJson?
    time := ← Timestamp.ofText? (← (← j.field? "extraction_time").text?)
    warnings := ← (← j.field? "warnings").items? Json.text?
    settings := ← SettingsDigest.ofJson? (← j.field? "config_used")
  }

end Report

end Casebook
