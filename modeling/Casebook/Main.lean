import Casebook.Program
import Std.Time.DateTime.Timestamp

/-! The command line. What the program may look at is read into a tree, the program is run on
it, and what it changed is written back.
-/

namespace Casebook.Snapshot

/-- The location of a path from the root that leads through no link. -/
def locationOf (path : String) : Tree.Location :=
  ((Path.components path).filterMap fun
    | .name text => Tree.Name.ofText? text
    | _ => none).reverse

/-- The path from the root of a location. -/
def pathOf (place : Tree.Location) : String :=
  "/" ++ String.intercalate "/" (place.reverse.map (·.text))

/-- The tree with a directory at a location and at every location above it. -/
def withDirectories (t : Tree) : Tree.Location → Tree
  | [] => t
  | n :: up =>
    let t := withDirectories t up
    if (t.get? (n :: up)).isSome then t else t.insert (n :: up) .directory

/-- What a path leads to, if it leads anywhere, as a path from the root without links. -/
def real? (path : String) : IO (Option String) := do
  try return some (← IO.FS.realPath path).toString
  catch _ => return none

mutual
/-- Reads the entry with a name in a directory, and if `deep` all that is below it. What a link
leads to is read with the link, and each link only once, so this ends also where links lead in
a circle.
-/
partial def readEntry (t : Tree) (directory name : String) (deep : Bool) : IO Tree := do
  let some n := Tree.Name.ofText? name | return t
  let place := n :: locationOf directory
  let isKnown := (t.get? place).isSome
  let path := (← IO.FS.realPath directory) / name
  let found ← try pure (some (← path.symlinkMetadata).type) catch _ => pure none
  match found with
  | some .dir =>
    let t := if isKnown then t else t.insert place .directory
    if deep then readBelow t path.toString else return t
  | some .file =>
    if isKnown then return t else return t.insert place (.file (← IO.FS.readBinFile path))
  | some .symlink =>
    if isKnown then return t
    match ← real? path.toString with
    | none => return t.insert place (.link "")
    | some target => readReal (t.insert place (.link target)) target deep
  | _ => return t

/-- Reads all entries of a directory and what is below them. -/
partial def readBelow (t : Tree) (directory : String) : IO Tree := do
  let mut t := t
  for entry in ← (← IO.FS.realPath directory).readDir do
    t ← readEntry t directory entry.fileName true
  return t

/-- Reads what a path without links leads to, with the directories above it. -/
partial def readReal (t : Tree) (path : String) (deep : Bool) : IO Tree := do
  match Path.ancestors path, Path.fileName? path with
  | directory :: _, some name =>
    readEntry (withDirectories t (locationOf directory)) directory name deep
  | _, _ => if deep then readBelow t "/" else return t
end

/-- Reads what a path leads to and the links on its way there. -/
def readPath (t : Tree) (path : String) (deep : Bool) : IO Tree := do
  let mut t := t
  for part in (path :: Path.ancestors path).reverse do
    unless part.isEmpty do
      let isLast := part = path
      let above := (Path.ancestors part).headD "/"
      let some directory ← real? (if above.isEmpty then "." else above) | return t
      match Path.fileName? part with
      | some name =>
        t := withDirectories t (locationOf directory)
        t ← readEntry t directory name (deep && isLast)
      | none =>
        if let some here ← real? part then
          t := withDirectories t (locationOf here)
          if deep && isLast then t ← readBelow t here
  return t

/-- The tree that a run with some arguments looks at: the settings files, the sources below its
path, and its output directory.
-/
def take (arguments : List String) : IO Tree := do
  let home := locationOf (← IO.FS.realPath ".").toString
  let mut t := withDirectories { home := home } home
  let .ok a := Arguments.ofList arguments | return t
  for path in Config.usualPaths ++ a.config.toList do
    t ← readPath t path false
  if !a.generateConfig then
    if let .ok c := Config.find t a.config then
      t ← readPath t (c.overlay a.overrides).output.directory true
    if let some root := a.path then
      t ← readPath t root true
  return t

/-- Writes back what changed. Directories come before what is in them. -/
def restore (before after : Tree) : IO Unit := do
  for (place, entry) in before.changes after do
    match entry with
    | .directory => IO.FS.createDir (pathOf place)
    | .file bytes => IO.FS.writeBinFile (pathOf place) bytes
    | .link _ => pure ()

/-- The time now, in UTC. -/
def now : IO Timestamp := do
  let nanos := (← Std.Time.Timestamp.now).toNanosecondsSinceUnixEpoch.val
  return { seconds := nanos.fdiv 1000000000, nanos := (nanos.fmod 1000000000).toNat }

end Casebook.Snapshot

/-- Runs the program. -/
def main (arguments : List String) : IO UInt32 := do
  let started ← IO.monoNanosNow
  let stdout ← IO.getStdout
  let stderr ← IO.getStderr
  let before ← Casebook.Snapshot.take arguments
  let elapsed := Casebook.Duration.of 0 ((← IO.monoNanosNow) - started)
  let clock : Casebook.Clock := { now := ← Casebook.Snapshot.now, elapsed := elapsed }
  let outcome := Casebook.Program.run arguments before (← stdout.isTty) clock
  Casebook.Snapshot.restore before outcome.tree
  for printed in outcome.printed do
    let stream := match printed.stream with
      | .out => stdout
      | .err => stderr
    stream.putStr (printed.text ++ "\n")
  return outcome.exitCode.toUInt32
