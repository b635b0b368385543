import Casebook.Config.Document
import Casebook.Failure
import Casebook.Tree.File

/-! Settings files: reading them, finding the one that a run uses, and writing them. -/

namespace Casebook.Config

/-- Reads settings from the file at a path. -/
def load (t : Tree) (path : String) : Except Failure Config :=
  if !t.pathExists path then .error (.config (.fileNotFound path))
  else
    match t.readText path with
    | .error cause => .error (.config (.fileUnreadable path cause))
    | .ok text =>
      match ofText text with
      | .error fault => .error (.config (.fileMalformed path fault.message))
      | .ok c => .ok c

/-- The files that settings are looked for in, the first that exists being the one. -/
def usualPaths : List String :=
  ["isolate-tests.toml", ".isolate-tests.toml"]

/-- Reads settings from the file that is asked for, or else from the first of the usual files
that exists. Without any file they are the defaults.
-/
def find (t : Tree) (path? : Option String) : Except Failure Config :=
  match path? with
  | some path => load t path
  | none =>
    match usualPaths.find? t.pathExists with
    | some path => load t path
    | none => .ok {}

/-- Writes settings to the file at a path, and gives the tree afterwards. Nothing is written if
their numbers do not fit in a document.
-/
def save (c : Config) (t : Tree) (path : String) : Except Failure Unit × Tree :=
  match c.render with
  | .error fault => (.error (.config (.unwritable fault.message)), t)
  | .ok text =>
    match t.writeText path text with
    | (.error cause, left) => (.error (.config (.fileUnwritable path cause)), left)
    | (.ok (), written) => (.ok (), written)

/-- The text of a settings file that says what holds without one. -/
def sample : String :=
  (({} : Config).render.toOption).getD ""

/-- Writes the sample to the file at a path, and gives the tree afterwards. -/
def saveSample (t : Tree) (path : String) : Except Failure Unit × Tree :=
  match t.writeText path sample with
  | (.error cause, left) => (.error (.io cause), left)
  | (.ok (), written) => (.ok (), written)

end Casebook.Config
