import Casebook.Text.Split

/-! Paths as texts. A path is read as a sequence of components; empty parts and single dots
inside it have no component, so paths that differ in them only name the same place.
-/

namespace Casebook.Path

/-- A step of a path. The root and the starting dot can only come first. -/
inductive Component where
  | root
  | here
  | up
  | name (text : String)
deriving DecidableEq, Repr

namespace Component

/-- The component that a part between two separators stands for, if it stands for one. -/
def ofPart? (part : List Char) : Option Component :=
  if part = [] ∨ part = ['.'] then none
  else if part = ['.', '.'] then some .up
  else some (.name (String.ofList part))

/-- The text of a component. -/
def text : Component → String
  | .root => "/"
  | .here => "."
  | .up => ".."
  | .name n => n

end Component

/-- The components of a path. -/
def components (path : String) : List Component :=
  match Text.split '/' path.toList with
  | [] => []
  | first :: rest =>
    let start :=
      if first = [] ∧ rest ≠ [] then some Component.root
      else if first = ['.'] then some Component.here
      else Component.ofPart? first
    start.toList ++ rest.filterMap Component.ofPart?

/-- A path with given components. -/
def ofComponents : List Component → String
  | [] => ""
  | .root :: rest => "/" ++ String.intercalate "/" (rest.map Component.text)
  | cs => String.intercalate "/" (cs.map Component.text)

/-- A name put below a directory. One separator stands between the two, and a name that begins
at the root stands alone.
-/
def join (directory name : String) : String :=
  if name.toList.head? = some '/' ∨ directory.isEmpty then name
  else if directory.toList.getLast? = some '/' then directory ++ name
  else directory ++ "/" ++ name

/-- The last component of a path, when it is a name. -/
def fileName? (path : String) : Option String :=
  match (components path).getLast? with
  | some (.name n) => some n
  | _ => none

/-- The part of a name after its last dot. A name has none without a dot, or when its only dot
comes first.
-/
def extensionOfName? (name : String) : Option String :=
  let parts := Text.split '.' name.toList
  if parts.length < 2 then none
  else if parts.length = 2 ∧ parts.head? = some [] then none
  else parts.getLast?.map String.ofList

/-- The extension of the last component of a path. -/
def extension? (path : String) : Option String :=
  (fileName? path).bind extensionOfName?

/-- The directories above a path, the nearest first. The last one is the root or the empty path,
above which there is nothing.
-/
def ancestors (path : String) : List String :=
  let cs := components path
  let least := if cs.head? = some .root then 1 else 0
  ((List.range cs.length).reverse.filter (least ≤ ·)).map fun count => ofComponents (cs.take count)

end Casebook.Path
