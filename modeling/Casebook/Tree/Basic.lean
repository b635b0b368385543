import Casebook.IoError
import Casebook.Tree.Name

/-! A tree of files as a value. It says what stands at every location; the top and the entries that
hold others are directories. Owners, permissions, devices and hard links are left out: every entry
can be read, there is room for every new entry, no two locations share a file, and what is not a
directory or a link is a plain file. Only the bytes for an open file may be stopped.
-/

namespace Casebook

/-- What stands at a location: a directory, a file with its bytes, or a symbolic link with the
path it was made with.
-/
inductive Tree.Entry where
  | directory
  | file (bytes : ByteArray)
  | link (target : String)

namespace Tree

/-- Entries are equal when what they hold is; the bytes of files are compared one by one. -/
instance : DecidableEq Entry
  | .directory, .directory => isTrue rfl
  | .file a, .file b =>
    if same : a.data = b.data then isTrue (congrArg Entry.file (ByteArray.ext same))
    else isFalse fun equal => same (congrArg ByteArray.data (Entry.file.inj equal))
  | .link a, .link b =>
    if same : a = b then isTrue (congrArg Entry.link same)
    else isFalse fun equal => same (Entry.link.inj equal)
  | .directory, .file _ | .directory, .link _ | .file _, .directory | .file _, .link _
  | .link _, .directory | .link _, .file _ => isFalse nofun

end Tree

/-- How many of its bytes an open file has taken when something stops the others, and what that is.
-/
structure Tree.Fault where
  taken : Nat
  cause : IoError

/-- What a tree is kept on. With all entries as they stand it may stop the bytes for the open file
at a location, while they are written or when they are flushed. By default it takes all bytes.
-/
structure Tree.Medium where
  writing? : List (Tree.Location × Tree.Entry) → Tree.Location → ByteArray → Option Tree.Fault :=
    fun _ _ _ => none
  flushing? : List (Tree.Location × Tree.Entry) → Tree.Location → ByteArray → Option Tree.Fault :=
    fun _ _ _ => none

/-- A tree of files, with the directory that relative paths start from and what the tree is kept on.
Where a location is listed twice the first entry counts.
-/
structure Tree where
  entries : List (Tree.Location × Tree.Entry) := []
  home : Tree.Location := []
  medium : Tree.Medium := {}

namespace Tree

/-- What stands at a location, if anything does. The top is a directory in every tree. -/
def get? (t : Tree) : Location → Option Entry
  | [] => some .directory
  | n :: up => (t.entries.find? (·.1 = n :: up)).map (·.2)

/-- The tree with an entry at a location, in place of what stood there. -/
def insert (t : Tree) (place : Location) (entry : Entry) : Tree :=
  if t.entries.any (·.1 = place) then
    { t with
      entries := t.entries.map fun listed =>
        if listed.1 = place then (place, entry) else listed }
  else { t with entries := t.entries ++ [(place, entry)] }

/-- The name of an entry right below a location, if the listed location is right below it. -/
def childName? (place : Location) : Location → Option Name
  | [] => none
  | n :: up => if up = place then some n else none

/-- The names of the entries right below a location, in order. -/
def children (t : Tree) (place : Location) : List Name :=
  Name.sorted (t.entries.filterMap fun listed => childName? place listed.1)

/-- The locations at which two trees differ and the second has an entry, with that entry. -/
def changes (before after : Tree) : List (Location × Entry) :=
  after.entries.filter fun listed => before.get? listed.1 ≠ some listed.2

end Tree

end Casebook
