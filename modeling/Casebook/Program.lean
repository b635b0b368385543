import Casebook.Arguments.Reading
import Casebook.Config.Check
import Casebook.Config.File
import Casebook.Extraction

/-! The program: what a list of arguments makes it print, how it changes a tree, and the code it
ends with.
-/

namespace Casebook.Program

/-- The name of the program. -/
def name : String := "isolate-tests"

/-- The version of the program. -/
def version : String := "1.0.0"

/-- What the program does with some arguments. -/
structure Outcome where
  exitCode : Nat
  printed : List Printed
  tree : Tree

/-- The lines of the help text. -/
def helpLines : List String :=
  ["Extract multi-line raw string literals into standalone test files",
    "",
    s!"Usage: {name} [OPTIONS] [PATH]",
    "",
    "Arguments:",
    "  [PATH]  Directory (or single file) to scan",
    "",
    "Options:",
    "  -o, --output-dir <DIR>       Directory receiving the extracted files",
    "      --stem <STEM>            Output file base name (default: test)",
    "      --extension <EXTENSION>  Output file extension (default: sol)",
    "      --start <NUMBER>         Number of the first output file",
    "  -e, --exclude <NAMES>        Directories to leave out, with commas between them",
    "      --extensions <LIST>      Only scan files with these extensions",
    "      --skip-unreadable        Skip files that cannot be read instead of aborting",
    "      --strict                 Treat a literal that is never closed as an error",
    "      --no-overwrite           Refuse to overwrite existing output files",
    "  -c, --config <FILE>          Path to TOML configuration file",
    "      --output-format <FORMAT> Output format: human, json or plain",
    "  -v, --verbose                Verbose output (-v, -vv)",
    "  -q, --quiet                  Suppress non-essential output",
    "      --dry-run                Show what would be extracted without writing files",
    "      --generate-config        Generate a sample configuration file",
    "  -h, --help                   Print help",
    "  -V, --version                Print version"]

/-- The code of a run that the arguments do not lead to. What was asked for is no fault. -/
def exitCodeOf : Arguments.Stop → Nat
  | .help | .version => 0
  | _ => 2

/-- What is printed when the arguments do not lead to a run. -/
def stopPrints : Arguments.Stop → List Printed
  | .help => helpLines.map Console.out
  | .version => [Console.out s!"{name} {version}"]
  | .nothingGiven => helpLines.map Console.err
  | stop =>
    [Console.err s!"error: {stop.message}", Console.err "",
      Console.err "For more information, try '--help'."]

/-- The settings that arguments ask for: those of the settings file with the given ones laid over
them, if a run can use them.
-/
def settings (a : Arguments) (t : Tree) : Except Failure Config := do
  let c ← Config.find t a.config
  let all := c.overlay a.overrides
  all.check t
  .ok all

/-- The file that a sample is written to unless another is asked for. -/
def samplePath : String := "isolate-tests.toml"

/-- Writes a sample of a settings file and tells how to use it. -/
def generate (a : Arguments) (t : Tree) : Outcome :=
  let path := a.config.getD samplePath
  match Config.saveSample t path with
  | (.error failure, left) =>
    {
      exitCode := 1
      printed := [Console.err s!"Failed to generate {path}: {failure.userMessage}"]
      tree := left
    }
  | (.ok (), written) =>
    {
      exitCode := 0
      printed :=
        [Console.out s!"Generated sample configuration file: {path}",
          Console.out "",
          Console.out "To use this configuration:",
          Console.out s!"  {name} <path> --config {path}"]
      tree := written
    }

/-- Makes the extraction that arguments ask for. Settings that cannot be used are told to people,
whatever mode the arguments ask for.
-/
def extract (a : Arguments) (t : Tree) (terminal : Bool) (clock : Clock) : Outcome :=
  match settings a t, a.path with
  | .error failure, _ =>
    let console := Console.ofOptions .human 0 false terminal clock.now
    { exitCode := 1, printed := console.failure failure, tree := t }
  | .ok _, none => { exitCode := 1, printed := [], tree := t }
  | .ok config, some root =>
    let console :=
      Console.ofOptions (a.mode.getD .human) a.verbosity a.quiet terminal clock.now
    let extraction : Extraction := { config := config, console := console, dryRun := a.dryRun }
    let outcome := extraction.runAndTell t root clock
    {
      exitCode := if outcome.result.toOption.isSome then 0 else 1
      printed := outcome.printed
      tree := outcome.tree
    }

/-- Does what a list of arguments asks for. -/
def run (arguments : List String) (t : Tree) (terminal : Bool) (clock : Clock) : Outcome :=
  match Arguments.ofList arguments with
  | .error stop => { exitCode := exitCodeOf stop, printed := stopPrints stop, tree := t }
  | .ok a => if a.generateConfig then generate a t else extract a t terminal clock

end Casebook.Program
