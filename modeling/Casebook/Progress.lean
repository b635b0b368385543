import Casebook.CaseNumber
import Casebook.Duration

/-! How far a run has come: what was read and written so far, and what a progress bar shows of
it.
-/

namespace Casebook

/-- One written case: its number and file name, where it was opened, and how long it is. -/
structure CaseRecord where
  index : Nat
  fileName : String
  source : String
  line : Nat
  delimiter : String
  lines : Nat
  bytes : Nat
deriving DecidableEq, Repr, Inhabited

/-- The state of a run over some files. Cases are numbered from `firstIndex` on, and `nextIndex`
is the number of the next one. Numbers are words and come round, while files, cases and bytes are
counted from zero and cannot get that far.
-/
structure Progress where
  filesScanned : Nat := 0
  totalFiles : Nat
  casesWritten : Nat := 0
  bytesWritten : Nat := 0
  currentFile : Option String := none
  firstIndex : Nat
  nextIndex : Nat
  cases : List CaseRecord := []
  warnings : List String := []
deriving DecidableEq, Repr, Inhabited

namespace Progress

/-- The state before the first file. -/
def begin (totalFiles start : Nat) : Progress where
  totalFiles := totalFiles
  firstIndex := start
  nextIndex := start

/-- The state when a file is taken up. -/
def enter (p : Progress) (file : String) : Progress :=
  { p with filesScanned := p.filesScanned + 1, currentFile := some file }

/-- The state after one more case. -/
def record (p : Progress) (c : CaseRecord) : Progress :=
  { p with
    casesWritten := p.casesWritten + 1
    bytesWritten := p.bytesWritten + c.bytes
    nextIndex := CaseNumber.next c.index
    cases := p.cases ++ [c] }

/-- The state after one more warning. -/
def warn (p : Progress) (warning : String) : Progress :=
  { p with warnings := p.warnings ++ [warning] }

/-- The share of the files that were taken up, in percent. -/
def percentage (p : Progress) : Float :=
  if p.totalFiles = 0 then 0
  else (p.filesScanned.toUInt64.toFloat / p.totalFiles.toUInt64.toFloat) * 100

end Progress

/-- A progress bar. A bar that is not drawn has no length. -/
structure ProgressBar where
  length : Option Nat
  position : Nat := 0
  message : String
  finished : Bool := false
deriving DecidableEq, Repr, Inhabited

namespace ProgressBar

/-- A text as a bar shows it, with eight blanks for a tab. -/
def shown (text : String) : String :=
  String.ofList (text.toList.flatMap fun c => if c = '\t' then List.replicate 8 ' ' else [c])

/-- What a bar says before the first file. -/
def waiting : String := "Scanning files..."

/-- The bar of a run over some files, drawn or not. -/
def ofFiles (drawn : Bool) (totalFiles : Nat) : ProgressBar :=
  if drawn then { length := some totalFiles, message := waiting }
  else { length := none, message := "" }

/-- The message of a bar that only tells what is going on, which is empty unless it is drawn. -/
def spinnerMessage (drawn : Bool) (message : String) : String :=
  if drawn then shown message else ""

/-- The bar brought to a state of the run. -/
def update (b : ProgressBar) (p : Progress) : ProgressBar :=
  { b with
    position := p.filesScanned
    message :=
      match p.currentFile with
      | some file => shown s!"{file} ({p.casesWritten} cases)"
      | none => waiting }

/-- The bar at its end, which it jumps to if it has one, with the time the run took. -/
def finish (b : ProgressBar) (message : String) (elapsed : Duration) : ProgressBar :=
  { b with
    position := b.length.getD b.position
    message := shown s!"{message} (completed in {elapsed.short})"
    finished := true }

end ProgressBar

end Casebook
