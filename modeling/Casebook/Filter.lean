import Casebook.Config.Basic
import Casebook.Path
import Casebook.Pattern.Parser

/-! Which files are read as sources and which directories are entered. -/

namespace Casebook

/-- A filter of sources. No extensions at all let every file through. -/
structure Filter where
  extensions : List String
  excludeDirs : List String
  excludePatterns : List Pattern

namespace Filter

/-- The filter that settings ask for. Extensions may be given with dots in front and in any case,
and texts that are no pattern exclude nothing.
-/
def ofSettings (settings : ScanSettings) : Filter where
  extensions :=
    settings.extensions.map fun e => String.ofList (Text.lowercase (Text.withoutDots e.toList))
  excludeDirs := settings.excludeDirs
  excludePatterns :=
    settings.excludePatterns.filterMap fun text => (Pattern.ofText text).toOption

/-- Some exclude pattern matches the text. -/
def excludes (f : Filter) (text : String) : Bool :=
  f.excludePatterns.any fun pattern => pattern.isMatch text

/-- The file is read as a source. -/
def isSource (f : Filter) (path : String) : Bool :=
  if f.excludes path then false
  else if f.extensions.isEmpty then true
  else
    match Path.extension? path with
    | some extension => f.extensions.contains (String.ofList (Text.lowercase extension.toList))
    | none => false

/-- The directory is entered. Names are compared as they are, case included. -/
def isEntered (f : Filter) (path : String) : Bool :=
  let named :=
    match Path.fileName? path with
    | some name => f.excludeDirs.contains name
    | none => false
  !named && !f.excludes path

end Filter

end Casebook
