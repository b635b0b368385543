import Casebook.Main
import Casebook.Toml.Reserved
import Casebook.Proofs.Literal.Layout
import Casebook.Proofs.Extraction.Contents
import Casebook.Proofs.Extraction.Sources
import Casebook.Proofs.Literal.LineEnd
import Casebook.Proofs.Literal.Document
import Casebook.Proofs.Collector.Stopped
import Casebook.Proofs.Extraction.Course
import Casebook.Proofs.Path.Join
import Casebook.Proofs.Path.Ancestors
import Casebook.Proofs.Extraction.Confinement
import Casebook.Proofs.Extraction.NoOverwrite
import Casebook.Proofs.Extraction.FailFast
import Casebook.Proofs.Walk.Exact
import Casebook.Proofs.Extraction.Preview
import Casebook.Proofs.Collector.Lockstep
import Casebook.Proofs.Walk.Skipping
import Casebook.Proofs.Extraction.Lockstep
import Casebook.Proofs.Extraction.Strict
import Casebook.Proofs.Extraction.Skipping
import Casebook.Proofs.Literal.Alone
import Casebook.Proofs.Extraction.Discards
import Casebook.Proofs.Walk.Links
import Casebook.Proofs.Config.Saved
import Casebook.Proofs.Literal.Concatenation
import Casebook.Pattern.Search
import Casebook.Proofs.Unicode.CodeSet
import Casebook.Proofs.Pattern.Ways
import Casebook.Proofs.Marker.Search
import Casebook.Proofs.Marker.Pattern
import Casebook.Proofs.Extraction.Causes
import Casebook.Proofs.Tree.Grown
import Casebook.Proofs.Walk.Grown
import Casebook.Proofs.Collector.Again
import Casebook.Proofs.Extraction.Again
import Casebook.Proofs.Text.Return
import Casebook.Proofs.Literal.Blanks
import Casebook.Proofs.Literal.Nesting
import Casebook.Proofs.Literal.Repair
import Casebook.Proofs.Collector.Refusal
import Casebook.Proofs.Collector.Splitting
import Casebook.Proofs.Collector.Yields
import Casebook.Proofs.Report.Tally
import Casebook.Proofs.Walk.Ordered
import Casebook.Proofs.Extraction.Summary
import Casebook.Proofs.Text.Lowercase
import Casebook.Proofs.Path.Extension
import Casebook.Proofs.Config.Flags
import Casebook.Proofs.Tree.Below
import Casebook.Proofs.Walk.Copied
import Casebook.Proofs.CaseWriter.AllOrNothing
import Casebook.Proofs.Json.Forms
import Casebook.Proofs.Console.Telling
import Casebook.Proofs.Extraction.Tellings
import Casebook.Proofs.Json.Lines
import Casebook.Proofs.Report.Reading
import Casebook.Proofs.Timestamp.Calendar
import Casebook.Proofs.Timestamp.Reading
import Casebook.Proofs.Console.Sayings
import Casebook.Proofs.Extraction.Readable
import Casebook.Proofs.Console.Masked
import Casebook.Proofs.Console.Verbosity
import Casebook.Proofs.Extraction.Verbosity
import Casebook.Proofs.Program.Outcome
import Casebook.Proofs.Toml.Reserved
