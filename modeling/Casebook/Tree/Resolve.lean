import Casebook.IoError
import Casebook.Tree.Basic

/-! Where a path leads. A path is followed step by step from its start, through links where it
meets them, until it ends at an entry or at the place of a missing one.
-/

namespace Casebook.Tree

/-- Where a path ends: at an entry, or in a directory that has no entry with the last name. -/
inductive Place where
  | entry (location : Location)
  | vacant (location : Location)
deriving DecidableEq, Repr

/-- The longest path, in bytes. -/
def maxPathBytes : Nat := 4095

/-- The longest name, in bytes. -/
def maxNameBytes : Nat := 255

/-- The most links that one path may lead through. -/
def maxLinks : Nat := 40

/-- The location that a path starts from, for a path that begins without a root at `base`. -/
def startOf (base : Location) (path : List Char) : Location :=
  if path.head? = some '/' then [] else base

/-- What a path is followed for, which decides how it may end. -/
inductive Purpose where
  /-- To find what is there, where a link at the end is followed. -/
  | find
  /-- To find what is there, where a link at the end is what is found. -/
  | findLink
  /-- To write a file. A link at the end is followed, and a separator at the end is refused. -/
  | writeFile
  /-- To make a directory. What the last name stands for is found, links among it, and separators
  after it say nothing.
  -/
  | makeDirectory
deriving DecidableEq, Repr

/-- A name that the steps `rest` follow counts as the last one of its path. -/
def Purpose.endsBefore (purpose : Purpose) (rest : List Step) : Bool :=
  match purpose with
  | .makeDirectory => rest.all (· = .blank)
  | .find | .findLink | .writeFile => rest.isEmpty

/-- A path whose last name is followed by separators, the steps `rest`, is refused. -/
def Purpose.refuses (purpose : Purpose) (rest : List Step) : Bool :=
  purpose = .writeFile && !rest.isEmpty && rest.all (· = .blank)

/-- A link that a path ends with is followed. -/
def Purpose.followsLast : Purpose → Bool
  | .find | .writeFile => true
  | .findLink | .makeDirectory => false

/-- Follows steps from a location. A link that has to be followed is left to `onLink`, which is
given where the link's path starts from and that path's steps with those still to do.
-/
def stepThrough (t : Tree) (onLink : Location → List Step → Except IoError Place)
    (purpose : Purpose) : Location → List Step → Except IoError Place
  | place, [] => .ok (.entry place)
  | place, step :: rest =>
    if t.get? place ≠ some .directory then .error .notDirectory
    else
      match step with
      | .here | .blank => stepThrough t onLink purpose place rest
      | .up => stepThrough t onLink purpose place.tail rest
      | .into n =>
        if purpose.refuses rest then .error .isDirectory
        else if n.text.utf8ByteSize > maxNameBytes then .error .nameTooLong
        else
          let isLast := purpose.endsBefore rest
          match t.get? (n :: place) with
          | none => if isLast then .ok (.vacant (n :: place)) else .error .notFound
          | some (.link target) =>
            if isLast && !purpose.followsLast then .ok (.entry (n :: place))
            else if target.isEmpty then .error .notFound
            else onLink (startOf place target.toList) (steps target.toList ++ rest)
          | some _ =>
            if isLast then .ok (.entry (n :: place))
            else stepThrough t onLink purpose (n :: place) rest

/-- Follows steps from a location through at most `links` links. -/
def follow (t : Tree) (purpose : Purpose) : Nat → Location → List Step → Except IoError Place
  | 0 => t.stepThrough (fun _ _ => .error .tooManyLinks) purpose
  | links + 1 => t.stepThrough (t.follow purpose links) purpose

/-- Where a path leads. -/
def locate (t : Tree) (path : String) (purpose : Purpose := .find) : Except IoError Place :=
  if path.toList.contains '\x00' then .error .nulInName
  else if path.isEmpty then .error .notFound
  else if path.utf8ByteSize > maxPathBytes then .error .nameTooLong
  else t.follow purpose maxLinks (startOf t.home path.toList) (steps path.toList)

end Casebook.Tree
