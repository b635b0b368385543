import Casebook.Config.Basic
import Casebook.Console.Basic

/-! What a command line can ask for, and why its arguments may not lead to a run. -/

namespace Casebook

/-- What the arguments of a command line ask for. What they do not give is as it is here. -/
structure Arguments where
  path : Option String := none
  config : Option String := none
  mode : Option Mode := none
  verbosity : Nat := 0
  quiet : Bool := false
  dryRun : Bool := false
  generateConfig : Bool := false
  overrides : Overrides := {}
deriving DecidableEq, Repr, Inhabited

namespace Arguments

/-- What is given by a text of its own. -/
inductive Setting where
  | path
  | outputDir
  | stem
  | extension
  | start
  | exclude
  | extensions
  | config
  | outputFormat
deriving DecidableEq, Repr

/-- What is given by its name alone. -/
inductive Flag where
  | skipUnreadable
  | strict
  | noOverwrite
  | verbose
  | quiet
  | dryRun
  | generateConfig
  | help
  | version
deriving DecidableEq, Repr

/-- What the name of an option stands for. -/
inductive Key where
  | setting (setting : Setting)
  | flag (flag : Flag)
deriving DecidableEq, Repr

/-- What a long name stands for. Names are not shortened. -/
def Key.ofLong? : String → Option Key
  | "output-dir" => some (.setting .outputDir)
  | "stem" => some (.setting .stem)
  | "extension" => some (.setting .extension)
  | "start" => some (.setting .start)
  | "exclude" => some (.setting .exclude)
  | "extensions" => some (.setting .extensions)
  | "config" => some (.setting .config)
  | "output-format" => some (.setting .outputFormat)
  | "skip-unreadable" => some (.flag .skipUnreadable)
  | "strict" => some (.flag .strict)
  | "no-overwrite" => some (.flag .noOverwrite)
  | "verbose" => some (.flag .verbose)
  | "quiet" => some (.flag .quiet)
  | "dry-run" => some (.flag .dryRun)
  | "generate-config" => some (.flag .generateConfig)
  | "help" => some (.flag .help)
  | "version" => some (.flag .version)
  | _ => none

/-- What a name of one letter stands for. -/
def Key.ofShort? : Char → Option Key
  | 'o' => some (.setting .outputDir)
  | 'e' => some (.setting .exclude)
  | 'c' => some (.setting .config)
  | 'v' => some (.flag .verbose)
  | 'q' => some (.flag .quiet)
  | 'h' => some (.flag .help)
  | 'V' => some (.flag .version)
  | _ => none

/-- How a message names a setting. -/
def Setting.name : Setting → String
  | path => "the path"
  | outputDir => "--output-dir"
  | stem => "--stem"
  | extension => "--extension"
  | start => "--start"
  | exclude => "--exclude"
  | extensions => "--extensions"
  | config => "--config"
  | outputFormat => "--output-format"

/-- How a message names a flag. -/
def Flag.name : Flag → String
  | skipUnreadable => "--skip-unreadable"
  | strict => "--strict"
  | noOverwrite => "--no-overwrite"
  | verbose => "--verbose"
  | quiet => "--quiet"
  | dryRun => "--dry-run"
  | generateConfig => "--generate-config"
  | help => "--help"
  | version => "--version"

/-- Why arguments do not lead to a run. Help and version are what was asked for, and the others
are faults.
-/
inductive Stop where
  | help
  | version
  | nothingGiven
  | unknown (argument : String)
  | missingValue (setting : Setting)
  | emptyValue (setting : Setting)
  | notOffered (setting : Setting) (text : String)
  | unusable (setting : Setting) (text reason : String)
  | needlessValue (flag : Flag)
  | repeatedSetting (setting : Setting)
  | repeatedFlag (flag : Flag)
  | quietAndVerbose
  | noPath
deriving DecidableEq, Repr

namespace Stop

/-- The text that ends the program on a fault. -/
def message : Stop → String
  | help => "help was asked for"
  | version => "the version was asked for"
  | nothingGiven => "no arguments were given"
  | unknown argument => s!"unexpected argument {argument}"
  | missingValue setting => s!"a value is required for {setting.name}"
  | emptyValue setting => s!"an empty value is not allowed for {setting.name}"
  | notOffered setting text => s!"{text} is not one of the values of {setting.name}"
  | unusable setting text reason => s!"invalid value {text} for {setting.name}: {reason}"
  | needlessValue flag => s!"{flag.name} takes no value"
  | repeatedSetting setting => s!"{setting.name} cannot be given twice"
  | repeatedFlag flag => s!"{flag.name} cannot be given twice"
  | quietAndVerbose => "--quiet cannot be given together with --verbose"
  | noPath => "a path to scan is required"

end Stop

end Arguments

end Casebook
