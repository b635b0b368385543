import Casebook.Marker
import Casebook.Text.Blank
import Casebook.Text.Lowercase

/-! Settings of a run: which files are read as sources, how literals are marked in them, and
where and under which names their contents are written.
-/

namespace Casebook

/-- A text without the dots it begins with. -/
def Text.withoutDots (text : List Char) : List Char :=
  text.dropWhile (· = '.')

/-- Which files are read, and what is done about those that cannot be. No extensions at all let
every file through.
-/
structure ScanSettings where
  extensions : List String := []
  excludeDirs : List String := []
  excludePatterns : List String := []
  maxDepth : Option Nat := none
  followLinks : Bool := false
  skipUnreadable : Bool := false
  strict : Bool := false
  marker : Marker := {}
deriving DecidableEq, Repr, Inhabited

/-- Where contents are written. File names are made of the stem, a number and the extension. -/
structure OutputSettings where
  directory : String := "."
  stem : String := "test"
  extension : String := "sol"
  startIndex : Nat := 0
  overwrite : Bool := true
deriving DecidableEq, Repr, Inhabited

/-- All settings of a run. -/
structure Config where
  scan : ScanSettings := {}
  output : OutputSettings := {}
deriving DecidableEq, Repr, Inhabited

/-- Settings that a command line gives. What it does not give is left as it is, and a flag can
only be set.
-/
structure Overrides where
  outputDir : Option String := none
  stem : Option String := none
  extension : Option String := none
  startIndex : Option Nat := none
  exclude : Option (List String) := none
  extensions : Option (List String) := none
  skipUnreadable : Bool := false
  strict : Bool := false
  noOverwrite : Bool := false
deriving DecidableEq, Repr, Inhabited

namespace Overrides

/-- The form of an extension that a command line gives: no blanks around it, no dots in front
and in lower case.
-/
def plainExtension (text : String) : String :=
  String.ofList (Text.lowercase (Text.withoutDots (Text.trim text.toList)))

end Overrides

namespace Config

/-- The settings with those of a command line laid over them. Excluded directories add to those
there are, and extensions, of which empty ones are dropped, take their place.
-/
def overlay (c : Config) (o : Overrides) : Config where
  scan :=
    { c.scan with
      excludeDirs := c.scan.excludeDirs ++ o.exclude.getD []
      extensions :=
        match o.extensions with
        | none => c.scan.extensions
        | some given => (given.map Overrides.plainExtension).filter (!·.isEmpty)
      skipUnreadable := c.scan.skipUnreadable || o.skipUnreadable
      strict := c.scan.strict || o.strict }
  output :=
    {
      directory := o.outputDir.getD c.output.directory
      stem := o.stem.getD c.output.stem
      extension :=
        match o.extension with
        | none => c.output.extension
        | some given => String.ofList (Text.withoutDots given.toList)
      startIndex := o.startIndex.getD c.output.startIndex
      overwrite := c.output.overwrite && !o.noOverwrite
    }

end Config

end Casebook
