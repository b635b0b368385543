import Casebook.CaseWriter
import Casebook.Config.Check
import Casebook.Literal
import Casebook.Progress
import Casebook.Walk

/-! Collecting cases: every source is read in turn, and each literal found in it is written as
one more case. A number goes from case to case and from source to source, so the numbers of a run
have no gaps.
-/

namespace Casebook

/-- How sources are read and cases written. -/
structure Collector where
  marker : Marker
  writer : CaseWriter
  strict : Bool := false
  skipUnreadable : Bool := false
deriving DecidableEq, Repr, Inhabited

/-- What a run works on: the tree, and how far the run has come. -/
structure Collecting where
  tree : Tree
  progress : Progress

/-- What a run over some sources ends with: its last state or what stopped it, the states seen
before each source and after the last, and the tree.
-/
structure Collected where
  result : Except Failure Progress
  seen : List Progress := []
  tree : Tree

namespace Collector

/-- The collector that settings ask for, if their marker can be used. -/
def ofConfig (c : Config) (dryRun : Bool) : Except Failure Collector := do
  c.scan.marker.checkSearch
  .ok
    {
      marker := c.scan.marker
      writer := CaseWriter.ofSettings c.output dryRun
      strict := c.scan.strict
      skipUnreadable := c.scan.skipUnreadable
    }

/-- The record of a literal written as a case. -/
def recordOf (k : Collector) (file : Source) (index : Nat) (l : Literal) (bytes : Nat)
    : CaseRecord where
  index := index
  fileName := k.writer.fileName index
  source := file.relativePath
  line := l.line
  delimiter := l.delimiter
  lines := l.lineCount
  bytes := bytes

/-- Writes literals as cases numbered from `counter` on, up to the first that cannot be written.
Gives the number after the last case.
-/
def writeAll (k : Collector) (file : Source)
    : List Literal → Nat → Collecting → Except Failure Nat × Collecting
  | [], counter, s => (.ok counter, s)
  | l :: rest, counter, s =>
    match k.writer.writeCase s.tree counter l.content with
    | (.error failure, left) => (.error failure, { s with tree := left })
    | (.ok bytes, tree) =>
      k.writeAll file rest (CaseNumber.next counter)
        { tree := tree, progress := s.progress.record (k.recordOf file counter l bytes) }

/-- The warning about a literal that is left open. -/
def discardWarning (file : Source) (u : OpenLiteral) : String :=
  s!"Discarded unterminated literal in {file.relativePath}:{u.line} "
    ++ s!"(delimiter {Text.quoted u.delimiter})"

/-- The warning about a source that cannot be read. -/
def skipWarning (file : Source) (cause : IoError) : String :=
  s!"Skipped unreadable {file.relativePath}: {cause.message}"

/-- Reads one source and writes its literals as cases numbered from `counter` on. All of a source
is scanned before any of it is written, so a source that is refused leaves no case.
-/
def collectFile (k : Collector) (file : Source) (counter : Nat) (s : Collecting)
    : Except Failure Nat × Collecting :=
  let entered := s.progress.enter file.relativePath
  match s.tree.readText file.path with
  | .error cause =>
    if k.skipUnreadable then
      (.ok counter, { s with progress := entered.warn (skipWarning file cause) })
    else (.error (.unreadableInput file.path cause), { s with progress := entered })
  | .ok text =>
    let found := k.marker.scan text
    match found.unterminated with
    | none => k.writeAll file found.literals counter { s with progress := entered }
    | some u =>
      if k.strict then
        (.error (.unterminatedLiteral file.path u.line u.delimiter),
          { s with progress := entered })
      else
        k.writeAll file found.literals counter
          { s with progress := entered.warn (discardWarning file u) }

/-- Reads sources in order, up to the first that cannot be collected. -/
def collectRest (k : Collector) : List Source → Nat → Collecting → Collected
  | [], _, s => { result := .ok s.progress, seen := [s.progress], tree := s.tree }
  | file :: rest, counter, s =>
    match k.collectFile file counter s with
    | (.error failure, after) =>
      { result := .error failure, seen := [s.progress], tree := after.tree }
    | (.ok next, after) =>
      let collected := k.collectRest rest next after
      { collected with seen := s.progress :: collected.seen }

/-- Makes the output directory and reads all sources, with cases numbered from `start` on. -/
def collectFiles (k : Collector) (t : Tree) (files : List Source) (start : Nat) : Collected :=
  match k.writer.prepare t with
  | (.error failure, tree) => { result := .error failure, tree := tree }
  | (.ok (), tree) =>
    k.collectRest files start { tree := tree, progress := Progress.begin files.length start }

end Collector

end Casebook
