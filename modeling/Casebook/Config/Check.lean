import Casebook.Config.Basic
import Casebook.Failure
import Casebook.Marker.Expression
import Casebook.Pattern.Parser
import Casebook.Tree.File

/-! Which settings a run is refused for. Faults are looked for in a fixed order and the first one
found is the answer.
-/

namespace Casebook

/-- The character is a control. -/
def Text.isControl (c : Char) : Bool :=
  c.toNat < 0x20 || (0x7F ≤ c.toNat && c.toNat < 0xA0)

/-- The fault of a stem. It must not lead out of the output directory, nor hold what some file
system refuses in a name.
-/
def StemFault.find? (stem : String) : Option StemFault :=
  if stem.toList.contains '/' || stem = ".." then some .separator
  else if stem.toList.any fun c => "<>:\"|?*".toList.contains c || Text.isControl c then
    some .invalidCharacter
  else none

/-- Refuses a stem that has a fault. -/
def checkStem (stem : String) : Except Failure Unit :=
  match StemFault.find? stem with
  | some fault => .error (.invalidStem fault stem)
  | none => .ok ()

namespace Marker

/-- Refuses a marker that has a fault. -/
def check (m : Marker) : Except Failure Unit :=
  match m.fault? with
  | some fault => .error (.config (.marker fault))
  | none => .ok ()

/-- Refuses a marker that has a fault or that lines cannot be searched for. -/
def checkSearch (m : Marker) : Except Failure Unit := do
  m.check
  if m.isTooLarge then .error (.config (.marker .tooLarge))

end Marker

namespace Config

/-- Refuses the first text that is no pattern. -/
def checkPatterns : List String → Except Failure Unit
  | [] => .ok ()
  | text :: rest =>
    match Pattern.ofText text with
    | .error fault => .error (.config (.pattern text fault.message))
    | .ok _ => checkPatterns rest

/-- The output extension would lead out of the output directory or hold a control. -/
def hasBadExtension (c : Config) : Bool :=
  c.output.extension.toList.any fun ch => ch = '/' || Text.isControl ch

/-- The output path leads to something that is no directory. -/
def isOutputBlocked (c : Config) (t : Tree) : Bool :=
  t.pathExists c.output.directory && !t.isDirectory c.output.directory

/-- Refuses settings that a run cannot use, as things stand in a tree. -/
def check (c : Config) (t : Tree) : Except Failure Unit := do
  c.scan.marker.check
  checkPatterns c.scan.excludePatterns
  if c.scan.maxDepth = some 0 then .error (.config .zeroDepth)
  checkStem c.output.stem
  if c.hasBadExtension then .error (.config (.extension c.output.extension))
  if c.isOutputBlocked t then .error (.config (.outputNotDirectory c.output.directory))

end Config

end Casebook
