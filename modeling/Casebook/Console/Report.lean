import Casebook.ByteSize
import Casebook.Console.Basic
import Casebook.Failure
import Casebook.Report

/-! Printing how a run ended: its report, or what stopped it. -/

namespace Casebook.Console

/-- Prints a failure and what to do about it. -/
def failure (c : Console) (f : Failure) : List Printed :=
  c.error f.userMessage
    ++ match f.suggestion? with
      | none => []
      | some suggestion =>
        match c.mode with
        | .human =>
          if c.colors then [err ("ℹ️  " ++ styled [.cyan] ("Suggestion: " ++ suggestion))]
          else [err ("Suggestion: " ++ suggestion)]
        | .json =>
          let fields := [("message", .string suggestion), ("type", .string "suggestion")]
          [out (Json.object fields).render]
        | .plain => [err ("SUGGESTION: " ++ suggestion)]

/-- A value of the report for people, which stands out in colors. -/
def highlighted (c : Console) (value : String) : String :=
  if c.colors then styled [.cyan, .bold] value else value

/-- The first line of the report for people. -/
def headline (c : Console) (dryRun : Bool) : String :=
  let text :=
    if dryRun then "Dry run completed, no files written" else "Case extraction completed!"
  if c.colors then styled [.green, .bold] text ++ " ✅ " else "✓ " ++ text

/-- The lines of counts of the report for people. -/
def summaryLines (c : Console) (r : Report) : List String :=
  let s := r.summary
  let output := s!"{r.outputDirectory} ({s.firstIndex} .. {CaseNumber.previous s.nextIndex})"
  ["  Files scanned:   " ++ c.highlighted (toString s.filesScanned),
    "  Cases extracted: " ++ c.highlighted (toString s.casesWritten)]
    ++ (if s.casesWritten > 0 then ["  Output:          " ++ c.highlighted output] else [])
    ++ ["  Bytes written:   " ++ c.highlighted (ByteSize.render s.bytesWritten),
      "  Time taken:      " ++ c.highlighted s.elapsed.short]

/-- The lines on each source, for a verbose run. -/
def sourceLines (c : Console) (s : Summary) : List String :=
  if 1 ≤ c.verbosity ∧ s.casesBySource ≠ [] then
    ["", "Cases by source file:"] ++ s.casesBySource.map fun (source, n) => s!"  {source}: {n}"
  else []

/-- The lines on each case, for a very verbose run. -/
def caseLines (c : Console) (r : Report) : List String :=
  if 2 ≤ c.verbosity then
    "" :: r.cases.map fun k => s!"  {k.fileName} <- {k.source}:{k.line} ({k.lines} lines)"
  else []

/-- Prints a report for people. -/
def humanReport (c : Console) (r : Report) : List Printed :=
  let lines :=
    [c.headline r.dryRun, ""] ++ c.summaryLines r ++ c.sourceLines r.summary ++ c.caseLines r
      ++ (if r.hasWarnings then [s!"  Warnings:        {r.warnings.length}"] else [])
  c.separator ++ lines.map out ++ c.separator

/-- The lines of a plain report. -/
def plainLines (c : Console) (r : Report) : List String :=
  let s := r.summary
  ["REPORT: Extraction completed",
    s!"Root: {r.root}",
    s!"Files: {s.filesScanned}",
    s!"Cases: {s.casesWritten}",
    s!"Bytes: {s.bytesWritten}",
    s!"Duration: {s.elapsed.exact}"]
    ++ (if r.dryRun then ["Dry run: true"] else [])
    ++ (if 2 ≤ c.verbosity then
        r.cases.map fun k => s!"CASE: {k.fileName} {k.source}:{k.line}"
      else [])
    ++ (if r.hasWarnings then [s!"Warnings: {r.warnings.length}"] else [])

/-- Prints a report. JSON is printed in a quiet run too, since it is what the run is for; a report
with a path that is no text is an empty object there.
-/
def report (c : Console) (r : Report) : List Printed :=
  match c.mode with
  | .json => [out (if r.isText then r.toJson.renderPretty else "\x7b\x7d")]
  | .human => if c.quiet then [] else c.humanReport r
  | .plain => if c.quiet then [] else (c.plainLines r).map out

end Casebook.Console
