import Casebook.Arguments.Basic
import Casebook.Text.Split

/-! Reading the arguments of a command line. They are read from left to right. An option without
a value attached waits for the next argument, and its value is looked at only when it is clear
that it has one: when the next option, path or end of the line is met.
-/

namespace Casebook.Arguments

/-- What is wrong with a path to scan, if anything is. Whether it exists is found out by the
scan.
-/
def pathFault? (text : String) : Option String :=
  if (Text.trim text.toList).isEmpty then some "Path must not be empty" else none

/-- The largest number that an option can have, which is the largest of 64 bits. -/
def maxNumber : Nat := 18446744073709551615

/-- The number that a text writes: decimal digits, perhaps with a plus sign. -/
def number? (text : String) : Option Nat :=
  let digits :=
    match text.toList with
    | '+' :: rest => rest
    | digits => digits
  if digits.isEmpty || !digits.all Char.isDigit then none
  else
    let n := digits.foldl (fun n c => n * 10 + (c.toNat - '0'.toNat)) 0
    if n ≤ maxNumber then some n else none

/-- The mode with a name on the command line. -/
def mode? : String → Option Mode
  | "human" => some .human
  | "json" => some .json
  | "plain" => some .plain
  | _ => none

/-- The items of a list on the command line, which has commas between them. -/
def listItems (text : String) : List String :=
  (Text.split ',' text.toList).map String.ofList

/-- The setting has been given, and cannot be given again. Lists can, and then go on. -/
def isGiven (a : Arguments) : Setting → Bool
  | .path => a.path.isSome
  | .outputDir => a.overrides.outputDir.isSome
  | .stem => a.overrides.stem.isSome
  | .extension => a.overrides.extension.isSome
  | .start => a.overrides.startIndex.isSome
  | .config => a.config.isSome
  | .outputFormat => a.mode.isSome
  | .exclude | .extensions => false

/-- A path of a setting, which must not be empty. -/
def checkPath (setting : Setting) (text : String) : Except Stop String :=
  if text.isEmpty then .error (.emptyValue setting) else .ok text

/-- The arguments with a setting that was not given before. -/
def withSetting (a : Arguments) (setting : Setting) (text : String) : Except Stop Arguments :=
  match setting with
  | .path =>
    match pathFault? text with
    | some reason => .error (.unusable .path text reason)
    | none => .ok { a with path := some text }
  | .outputDir => do
    let path ← checkPath .outputDir text
    .ok { a with overrides := { a.overrides with outputDir := some path } }
  | .stem => .ok { a with overrides := { a.overrides with stem := some text } }
  | .extension => .ok { a with overrides := { a.overrides with extension := some text } }
  | .start =>
    match number? text with
    | some n => .ok { a with overrides := { a.overrides with startIndex := some n } }
    | none => .error (.unusable .start text "not a number of at most 64 bits")
  | .exclude =>
    let all := a.overrides.exclude.getD [] ++ listItems text
    .ok { a with overrides := { a.overrides with exclude := some all } }
  | .extensions =>
    let all := a.overrides.extensions.getD [] ++ listItems text
    .ok { a with overrides := { a.overrides with extensions := some all } }
  | .config => do .ok { a with config := some (← checkPath .config text) }
  | .outputFormat =>
    match mode? text with
    | some mode => .ok { a with mode := some mode }
    | none => .error (.notOffered .outputFormat text)

/-- Gives a setting its value. -/
def set (a : Arguments) (setting : Setting) (text : String) : Except Stop Arguments :=
  if a.isGiven setting then .error (.repeatedSetting setting) else a.withSetting setting text

/-- The largest verbosity, which more flags do not raise. -/
def maxVerbosity : Nat := 255

/-- Sets a flag. Only the one for verbosity counts how often it is given. -/
def raise (a : Arguments) : Flag → Except Stop Arguments
  | .help => .error .help
  | .version => .error .version
  | .verbose => .ok { a with verbosity := min (a.verbosity + 1) maxVerbosity }
  | .skipUnreadable =>
    if a.overrides.skipUnreadable then .error (.repeatedFlag .skipUnreadable)
    else .ok { a with overrides := { a.overrides with skipUnreadable := true } }
  | .strict =>
    if a.overrides.strict then .error (.repeatedFlag .strict)
    else .ok { a with overrides := { a.overrides with strict := true } }
  | .noOverwrite =>
    if a.overrides.noOverwrite then .error (.repeatedFlag .noOverwrite)
    else .ok { a with overrides := { a.overrides with noOverwrite := true } }
  | .quiet =>
    if a.quiet then .error (.repeatedFlag .quiet) else .ok { a with quiet := true }
  | .dryRun =>
    if a.dryRun then .error (.repeatedFlag .dryRun) else .ok { a with dryRun := true }
  | .generateConfig =>
    if a.generateConfig then .error (.repeatedFlag .generateConfig)
    else .ok { a with generateConfig := true }

/-- A setting whose value has not been looked at, with its value if that was met. -/
structure Pending where
  setting : Setting
  text : Option String := none

/-- How far the arguments have been read. Once `pathsOnly`, no argument is an option. -/
structure Reading where
  settled : Arguments := {}
  pending : Option Pending := none
  pathsOnly : Bool := false

namespace Reading

/-- The arguments once nothing is pending any more. -/
def settle (r : Reading) : Except Stop Arguments :=
  match r.pending with
  | none => .ok r.settled
  | some ⟨setting, some text⟩ => r.settled.set setting text
  | some ⟨setting, none⟩ => .error (.missingValue setting)

/-- A path has been given. -/
def hasPath (r : Reading) : Bool :=
  r.settled.path.isSome || r.pending.any fun pending => pending.setting = .path

/-- Takes an argument for the path, of which there is only one. -/
def takePath (r : Reading) (argument : String) : Except Stop Reading :=
  if r.hasPath then .error (.unknown argument)
  else do
    let settled ← r.settle
    .ok { r with settled := settled, pending := some { setting := .path, text := some argument } }

/-- Takes a flag. -/
def takeFlag (r : Reading) (flag : Flag) : Except Stop Reading := do
  .ok { r with settled := ← (← r.settle).raise flag, pending := none }

/-- Takes a setting, with its value where one is attached. -/
def takeSetting (r : Reading) (setting : Setting) (attached : Option String)
    : Except Stop Reading := do
  let settled ← r.settle
  match attached with
  | some text => .ok { r with settled := ← settled.set setting text, pending := none }
  | none => .ok { r with settled := settled, pending := some { setting := setting } }

/-- Takes an argument that begins with two dashes, without them. A value is attached with an
equals sign.
-/
def takeLong (r : Reading) (argument : List Char) : Except Stop Reading :=
  let attached :=
    if argument.contains '=' then
      some (String.ofList ((argument.dropWhile (· ≠ '=')).drop 1))
    else none
  match Key.ofLong? (String.ofList (argument.takeWhile (· ≠ '='))), attached with
  | some (.setting setting), _ => r.takeSetting setting attached
  | some (.flag flag), none => r.takeFlag flag
  | some (.flag flag), some _ => .error (.needlessValue flag)
  | none, _ => .error (.unknown ("--" ++ String.ofList argument))

/-- Takes the letters of an argument that begins with one dash. The value of a setting is what
follows its letter, with or without an equals sign between the two.
-/
def takeShort (r : Reading) : List Char → Except Stop Reading
  | [] => .ok r
  | c :: rest =>
    match Key.ofShort? c with
    | none => .error (.unknown (String.ofList ['-', c]))
    | some (.flag flag) => do (← r.takeFlag flag).takeShort rest
    | some (.setting setting) =>
      match rest with
      | [] => r.takeSetting setting none
      | '=' :: text => r.takeSetting setting (some (String.ofList text))
      | text => r.takeSetting setting (some (String.ofList text))

/-- Takes one argument. -/
def take (r : Reading) (argument : String) : Except Stop Reading :=
  if r.pathsOnly then r.takePath argument
  else
    match argument.toList with
    | ['-', '-'] => .ok { r with pathsOnly := true }
    | '-' :: '-' :: long => r.takeLong long
    | '-' :: c :: short => r.takeShort (c :: short)
    | _ =>
      match r.pending with
      | some ⟨setting, none⟩ =>
        .ok { r with pending := some { setting := setting, text := some argument } }
      | _ => r.takePath argument

end Reading

/-- Refuses arguments that do not belong together. -/
def check (a : Arguments) : Except Stop Arguments :=
  if a = {} then .error .nothingGiven
  else if a.quiet && a.verbosity ≠ 0 then .error .quietAndVerbose
  else if a.path.isNone && !a.generateConfig then .error .noPath
  else .ok a

/-- What some arguments ask for. -/
def ofList (arguments : List String) : Except Stop Arguments := do
  (← (← arguments.foldlM Reading.take {}).settle).check

end Casebook.Arguments
