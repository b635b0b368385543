import Casebook.Failure
import Casebook.Filter
import Casebook.Tree.Extent

/-! Listing the sources below a root. A walk visits a directory before its entries and the
entries in the order of their names, so a tree has one listing. It ends in every tree: along a
path, real directories lead deeper and followed links lead to directories not yet on the path.
-/

namespace Casebook

/-- A file to be read: its path, its path below the root, and its size in bytes. -/
structure Source where
  path : String
  relativePath : String
  size : Nat
deriving DecidableEq, Repr, Inhabited

/-- The sources below a root, in the order of the walk, and a complaint about each entry that
could not be read.
-/
structure Listing where
  files : List Source := []
  skipped : List String := []
deriving DecidableEq, Repr, Inhabited

namespace Listing

/-- The sizes of all files together. -/
def totalBytes (l : Listing) : Nat :=
  l.files.foldl (fun total file => total + file.size) 0

end Listing

/-- What a walk meets. An entry is seen as what it is, or as what it leads to where it is a link
that was followed.
-/
inductive Visit where
  | directory (path : String)
  | file (path relativePath : String)
  | link (path relativePath : String)
  | unreadable (path : String) (cause : IoError)
  | loop (path ancestor : String)
deriving DecidableEq, Repr

/-- How sources are listed. -/
structure Walker where
  filter : Filter
  maxDepth : Option Nat
  followLinks : Bool
  skipUnreadable : Bool

namespace Walker

/-- The walker that settings ask for. -/
def ofSettings (settings : ScanSettings) : Walker where
  filter := Filter.ofSettings settings
  maxDepth := settings.maxDepth
  followLinks := settings.followLinks
  skipUnreadable := settings.skipUnreadable

/-- What a walk meets below the directory at `place`, whose path is `path` and which the names in
`names` lead to from the root. The directories on the way, this one among them, are in `onPath`,
the nearest first. A link is followed into a directory only if the directory is not among them.
A directory that its path does not lead to, for one because the path is too long, cannot be read.
-/
def below (w : Walker) (t : Tree) (onPath : List (Tree.Location × String)) (path : String)
    (names : List String) (place : Tree.Location) : List Visit :=
  if w.maxDepth.any (· ≤ names.length) then []
  else if let .error cause := t.stat path then [.unreadable path cause]
  else
    (t.children place).flatMap fun n =>
      let path := Path.join path n.text
      let names := names ++ [n.text]
      match _stands : t.get? (n :: place) with
      | none => []
      | some (.file _) => [.file path (String.intercalate "/" names)]
      | some .directory =>
        if w.filter.isEntered path then
          .directory path :: w.below t ((n :: place, path) :: onPath) path names (n :: place)
        else []
      | some (.link _) =>
        if !w.followLinks then [.link path (String.intercalate "/" names)]
        else
          match _followed : t.stat path with
          | .error cause => [.unreadable path cause]
          | .ok (target, .directory) =>
            match _isNew : onPath.find? (·.1 = target) with
            | some (_, ancestor) => [.loop path ancestor]
            | none =>
              if w.filter.isEntered path then
                .directory path :: w.below t ((target, path) :: onPath) path names target
              else []
          | .ok _ => [.file path (String.intercalate "/" names)]
termination_by t.unvisited (onPath.map (·.1)) * (t.height + 1) + (t.height - place.length)
decreasing_by
  · exact Tree.measure_lt_of_deeper _stands (onPath.map (·.1))
  · refine Tree.measure_lt_of_new (Tree.get?_of_stat _followed) fun inList => ?_
    obtain ⟨visited, hv, same⟩ := List.mem_map.mp inList
    have differs := List.find?_eq_none.mp _isNew visited hv
    simp [same] at differs

/-- What a walk meets, the root first. The root is walked whatever its name, also through a link
to a directory.
-/
def visits (w : Walker) (t : Tree) (root : String) : List Visit :=
  let name := (Path.fileName? root).getD root
  match t.linkStat root, t.stat root with
  | .error cause, _ => [.unreadable root cause]
  | .ok (place, .directory), _ => .directory root :: w.below t [(place, root)] root [] place
  | .ok (_, .file _), _ => [.file root name]
  | .ok (_, .link _), .ok (place, .directory) =>
    (if w.followLinks then .directory root else .link root name)
      :: w.below t [(place, root)] root [] place
  | .ok (_, .link _), .ok _ => [if w.followLinks then .file root name else .link root name]
  | .ok (_, .link _), .error cause =>
    [if w.followLinks then .unreadable root cause else .link root name]

/-- What becomes of an entry that a walk meets: it is no source, or a source, or it cannot be
read, which is a failure unless such entries are skipped with a complaint.
-/
inductive Verdict where
  | ignored
  | source (file : Source)
  | unreadable (failure : Failure) (complaint : String)
deriving DecidableEq, Repr

namespace Verdict

/-- The source, if there is one. -/
def source? : Verdict → Option Source
  | source file => some file
  | ignored | unreadable .. => none

/-- The failure, if there is one. -/
def failure? : Verdict → Option Failure
  | unreadable failure _ => some failure
  | ignored | source _ => none

/-- The complaint, if there is one. -/
def complaint? : Verdict → Option String
  | unreadable _ complaint => some complaint
  | ignored | source _ => none

end Verdict

/-- Judges what is a file or leads to one. Filters hold for the files below a directory, and not
for a file that is the root itself.
-/
def judgeFile (w : Walker) (t : Tree) (rootIsDirectory : Bool) (path relativePath : String)
    : Verdict :=
  if rootIsDirectory && !w.filter.isSource path then .ignored
  else
    match t.stat path with
    | .ok (_, .file bytes) =>
      .source { path := path, relativePath := relativePath, size := bytes.size }
    | .ok _ => .source { path := path, relativePath := relativePath, size := 0 }
    | .error cause =>
      .unreadable (.unreadableInput path cause) s!"Cannot stat {path}: {cause.message}"

/-- Judges what a walk meets. A link that was not followed is a source if it leads to a file. -/
def judge (w : Walker) (t : Tree) (rootIsDirectory : Bool) : Visit → Verdict
  | .directory _ => .ignored
  | .file path relativePath => w.judgeFile t rootIsDirectory path relativePath
  | .link path relativePath =>
    if t.isFile path then w.judgeFile t rootIsDirectory path relativePath else .ignored
  | .unreadable path cause =>
    .unreadable (.unreadableInput path cause)
      s!"Scan error: IO error for operation on {path}: {cause.message}"
  | .loop path ancestor =>
    .unreadable (.unreadableInput path .linkLoop)
      s!"Scan error: File system loop found: {path} points to an ancestor {ancestor}"

/-- Lists the sources below a root. Unless unreadable entries are skipped, the first one that the
walk meets is the answer. The tree itself keeps no entry from being read, so what is unreadable is a
link that leads nowhere or back to where the walk comes from, or has too long a path.
-/
def list (w : Walker) (t : Tree) (root : String) : Except Failure Listing :=
  match t.stat root with
  | .error cause => .error (.unreadableInput root cause)
  | .ok (_, entry) =>
    let verdicts := (w.visits t root).map (w.judge t (entry = .directory))
    let failure := if w.skipUnreadable then none else verdicts.findSome? Verdict.failure?
    match failure with
    | some failure => .error failure
    | none =>
      .ok
        {
          files := verdicts.filterMap Verdict.source?
          skipped := verdicts.filterMap Verdict.complaint?
        }

end Walker

end Casebook
