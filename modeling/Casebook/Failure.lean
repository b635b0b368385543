import Casebook.IoError
import Casebook.Marker
import Casebook.Text.Quoted

/-! Failures of a run. Each has a cause, a message, the message that a person at the terminal
is shown, and for most causes a suggestion of what to do about it.
-/

namespace Casebook

/-- Why the stem of the output files is refused. -/
inductive StemFault where
  | separator
  | invalidCharacter
deriving DecidableEq, Repr

/-- Why settings cannot be read, written or used. -/
inductive ConfigFault where
  | marker (fault : MarkerFault)
  | pattern (text : String) (reason : String)
  | zeroDepth
  | extension (text : String)
  | outputNotDirectory (path : String)
  | fileNotFound (path : String)
  | fileUnreadable (path : String) (cause : IoError)
  | fileMalformed (path : String) (reason : String)
  | fileUnwritable (path : String) (cause : IoError)
  | unwritable (reason : String)
  | other (text : String)
deriving DecidableEq, Repr

/-- Why a run stops. -/
inductive Failure where
  | io (cause : IoError)
  | unreadableInput (path : String) (cause : IoError)
  | unterminatedLiteral (path : String) (line : Nat) (delimiter : String)
  | writeFailure (path : String) (cause : IoError)
  | outputFileExists (path : String)
  | invalidStem (fault : StemFault) (stem : String)
  | invalidPath (text : String)
  | config (fault : ConfigFault)
deriving DecidableEq, Repr

namespace StemFault

/-- What is wrong with the stem, which ends the message. -/
def message (stem : String) : StemFault → String
  | .separator => s!"Output stem must not contain path separators: {stem}"
  | .invalidCharacter => s!"Output stem contains invalid characters: {stem}"

end StemFault

namespace ConfigFault

/-- What is wrong with the settings. -/
def message : ConfigFault → String
  | .marker .emptyLead => "Raw string prefix must not be empty"
  | .marker .blankBracket => "Raw string brackets must not be whitespace"
  | .marker .tooLarge =>
    "Invalid raw string syntax: Compiled regex exceeds size limit of 10485760 bytes."
  | .pattern text reason => s!"Invalid exclude pattern {Text.quoted text}: {reason}"
  | .zeroDepth => "Maximum directory depth must be greater than 0"
  | .extension text => s!"Invalid output extension: {Text.quoted text}"
  | .outputNotDirectory path => s!"Output path is not a directory: {path}"
  | .fileNotFound path => s!"Configuration file not found: {path}"
  | .fileUnreadable path cause => s!"Failed to read config file {path}: {cause.message}"
  | .fileMalformed path reason => s!"Failed to parse config file {path}: {reason}"
  | .fileUnwritable path cause => s!"Failed to write config file {path}: {cause.message}"
  | .unwritable reason => s!"Failed to serialize config: {reason}"
  | .other text => text

end ConfigFault

namespace Failure

/-- The message that names the kind of failure first. -/
def message : Failure → String
  | .io cause => s!"IO operation failed: {cause.message}"
  | .unreadableInput path cause => s!"Cannot read input {path}: {cause.message}"
  | .unterminatedLiteral path line delimiter =>
    s!"Unterminated raw string literal in {path} (opened at line {line}, "
      ++ s!"delimiter {Text.quoted delimiter})"
  | .writeFailure path cause => s!"Cannot write output file {path}: {cause.message}"
  | .outputFileExists path => s!"Output file already exists: {path}"
  | .invalidStem fault stem => s!"Path validation failed: {fault.message stem}"
  | .invalidPath text => s!"Path validation failed: {text}"
  | .config fault => s!"Configuration error: {fault.message}"

/-- The message for a person. A literal left open is shown with the closing text of the marker
that settings start from.
-/
def userMessage : Failure → String
  | .unreadableInput path cause => s!"Could not read {path}: {cause.message}"
  | .unterminatedLiteral path line delimiter =>
    s!"Raw string literal opened at {path}:{line} is never closed with ){delimiter}\";"
  | .writeFailure path cause => s!"Could not write {path}: {cause.message}"
  | .outputFileExists path => s!"Output file already exists: {path}"
  | .invalidStem fault stem => s!"Invalid path: {fault.message stem}"
  | .invalidPath text => s!"Invalid path: {text}"
  | .config fault => s!"Configuration error: {fault.message}"
  | .io cause => s!"IO operation failed: {cause.message}"

/-- What to do about a failure, where there is something to do. -/
def suggestion? : Failure → Option String
  | .unreadableInput .. =>
    some ("Check the file permissions and encoding (UTF-8 is required), "
      ++ "or pass --skip-unreadable to continue past it.")
  | .unterminatedLiteral .. =>
    some ("Close the literal with the same delimiter it was opened with, "
      ++ "or drop --strict to discard it with a warning.")
  | .writeFailure .. =>
    some "Ensure the output directory exists, is writable and has free space."
  | .outputFileExists .. =>
    some "Remove the existing files, choose another --output-dir, or drop --no-overwrite."
  | .config _ =>
    some "Check your configuration file syntax and ensure all fields have valid values."
  | .io _ | .invalidStem .. | .invalidPath _ => none

end Failure

end Casebook
