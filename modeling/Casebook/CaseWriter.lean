import Casebook.Config.Basic
import Casebook.Failure
import Casebook.Tree.File

/-! Writing contents to numbered files of one directory. -/

namespace Casebook

/-- Where cases are written and how. A dry run does everything but write. -/
structure CaseWriter where
  directory : String
  stem : String
  extension : String
  overwrite : Bool
  dryRun : Bool := false
deriving DecidableEq, Repr, Inhabited

namespace CaseWriter

/-- The writer that settings ask for. -/
def ofSettings (settings : OutputSettings) (dryRun : Bool) : CaseWriter where
  directory := settings.directory
  stem := settings.stem
  extension := settings.extension
  overwrite := settings.overwrite
  dryRun := dryRun

/-- The name of the file with a number. -/
def fileName (w : CaseWriter) (index : Nat) : String :=
  if w.extension.isEmpty then w.stem ++ toString index
  else w.stem ++ toString index ++ "." ++ w.extension

/-- The path of the file with a number. -/
def casePath (w : CaseWriter) (index : Nat) : String :=
  Path.join w.directory (w.fileName index)

/-- Makes the output directory if nothing is there, with all that is missing above it. -/
def prepare (w : CaseWriter) (t : Tree) : Except Failure Unit × Tree :=
  if w.dryRun || t.pathExists w.directory then (.ok (), t)
  else
    match t.makeDirectories w.directory with
    | (.ok (), made) => (.ok (), made)
    | (.error cause, made) => (.error (.writeFailure w.directory cause), made)

/-- Writes a content to the file with a number. Gives the number of bytes written, and the tree
afterwards, in which a file that was opened stays also if the content did not get there.
-/
def writeCase (w : CaseWriter) (t : Tree) (index : Nat) (content : String)
    : Except Failure Nat × Tree :=
  let path := w.casePath index
  if w.dryRun then (.ok content.utf8ByteSize, t)
  else if !w.overwrite && t.pathExists path then (.error (.outputFileExists path), t)
  else
    match t.writeText path content with
    | (.ok (), written) => (.ok content.utf8ByteSize, written)
    | (.error cause, left) => (.error (.writeFailure path cause), left)

end CaseWriter

end Casebook
