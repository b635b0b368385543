import Casebook.Path
import Casebook.Tree.Resolve

/-! File operations by path. Those that only look give an answer; those that write give the tree
afterwards. That is the tree before where they fail, but for directories that were made until then
and for a file that was open already.
-/

namespace Casebook.Tree

/-- The entry that a path leads to, links followed, and where it is. -/
def stat (t : Tree) (path : String) : Except IoError (Location × Entry) := do
  match ← t.locate path with
  | .vacant _ => .error .notFound
  | .entry place =>
    match t.get? place with
    | some entry => .ok (place, entry)
    | none => .error .notFound

/-- The entry that a path leads to, where a link at its end is the entry. -/
def linkStat (t : Tree) (path : String) : Except IoError (Location × Entry) := do
  match ← t.locate path .findLink with
  | .vacant _ => .error .notFound
  | .entry place =>
    match t.get? place with
    | some entry => .ok (place, entry)
    | none => .error .notFound

/-- The path leads to something. -/
def pathExists (t : Tree) (path : String) : Bool :=
  (t.stat path).toOption.isSome

/-- The path leads to a directory. -/
def isDirectory (t : Tree) (path : String) : Bool :=
  match t.stat path with
  | .ok (_, .directory) => true
  | _ => false

/-- The path leads to a file. -/
def isFile (t : Tree) (path : String) : Bool :=
  match t.stat path with
  | .ok (_, .file _) => true
  | _ => false

/-- The text of the file that a path leads to. -/
def readText (t : Tree) (path : String) : Except IoError String := do
  match ← t.stat path with
  | (_, .file bytes) =>
    match String.fromUTF8? bytes with
    | some text => .ok text
    | none => .error .invalidText
  | _ => .error .isDirectory

/-- Where a file with this path is or would be made. A directory cannot be written as a file. -/
def fileTarget (t : Tree) (path : String) : Except IoError Location := do
  match ← t.locate path .writeFile with
  | .vacant place => .ok place
  | .entry place =>
    match t.get? place with
    | some (.file _) => .ok place
    | _ => .error .isDirectory

/-- Opens the file at a path to be written, made if it is missing and emptied if it is not. -/
def createFile (t : Tree) (path : String) : Except IoError (Location × Tree) := do
  let place ← t.fileTarget path
  .ok (place, t.insert place (.file .empty))

/-- What stops the bytes for the open file at a location, if anything does: while they are written,
or else when they are flushed.
-/
def fault? (t : Tree) (place : Location) (bytes : ByteArray) : Option Fault :=
  (t.medium.writing? t.entries place bytes).or (t.medium.flushing? t.entries place bytes)

/-- Fills the open file at a location with bytes, as far as nothing stops them. -/
def fill (t : Tree) (place : Location) (bytes : ByteArray) : Except IoError Unit × Tree :=
  match t.fault? place bytes with
  | none => (.ok (), t.insert place (.file bytes))
  | some fault => (.error fault.cause, t.insert place (.file (bytes.extract 0 fault.taken)))

/-- Writes a text to the file at a path. A file that was opened stays, with as much of the text as
it has taken.
-/
def writeText (t : Tree) (path : String) (text : String) : Except IoError Unit × Tree :=
  match t.createFile path with
  | .error cause => (.error cause, t)
  | .ok (place, opened) => opened.fill place text.toUTF8

/-- Makes the directory at a path, in a directory that exists. Anything that is there already is
in the way, a link that leads nowhere among it.
-/
def makeDirectory (t : Tree) (path : String) : Except IoError Tree := do
  match ← t.locate path .makeDirectory with
  | .entry _ => .error .alreadyExists
  | .vacant place => .ok (t.insert place .directory)

/-- Makes the directory at the first path of a list, where each path is the one above the path
before it: what is above is made first wherever it is missing. Directories made before a failure
stay.
-/
def makeDirectoriesAlong (t : Tree) : List String → Except IoError Unit × Tree
  | [] => (.error .noParent, t)
  | path :: above =>
    if path.isEmpty then (.ok (), t)
    else
      match t.makeDirectory path with
      | .ok made => (.ok (), made)
      | .error .notFound =>
        match t.makeDirectoriesAlong above with
        | (.error cause, rest) => (.error cause, rest)
        | (.ok (), rest) =>
          match rest.makeDirectory path with
          | .ok made => (.ok (), made)
          | .error cause => if rest.isDirectory path then (.ok (), rest) else (.error cause, rest)
      | .error cause => if t.isDirectory path then (.ok (), t) else (.error cause, t)

/-- Makes the directory at a path and every missing directory above it. -/
def makeDirectories (t : Tree) (path : String) : Except IoError Unit × Tree :=
  t.makeDirectoriesAlong (path :: Path.ancestors path)

end Casebook.Tree
