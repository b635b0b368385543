import Casebook.Json
import Casebook.Text.Lowercase
import Casebook.Timestamp

/-! What is printed, and when. Every text goes to one of two streams; what is shown hangs on the
mode, the verbosity and whether the run is quiet.
-/

namespace Casebook

/-- The form of what is printed. -/
inductive Mode where
  | human
  | json
  | plain
deriving DecidableEq, Repr, Inhabited

/-- The mode with a name, in any case; every other text is the mode for people. -/
def Mode.ofText (text : String) : Mode :=
  match String.ofList (Text.lowercase text.toList) with
  | "json" => .json
  | "plain" => .plain
  | _ => .human

/-- Where a text is printed. -/
inductive Stream where
  | out
  | err
deriving DecidableEq, Repr

/-- A text printed on a stream, with a line feed after it. -/
structure Printed where
  stream : Stream
  text : String
deriving DecidableEq, Repr

namespace Printed

/-- All that some printed texts put on a stream. -/
def onStream (stream : Stream) (printed : List Printed) : String :=
  String.join ((printed.filter (·.stream = stream)).map fun p => p.text ++ "\n")

end Printed

/-- How a run prints. The time is the one that messages are stamped with. -/
structure Console where
  mode : Mode
  colors : Bool
  verbosity : Nat
  quiet : Bool
  now : Timestamp
deriving DecidableEq, Repr, Inhabited

namespace Console

/-- The console of a run. Only people are shown colors, on a terminal and in a run that is not
quiet, and a quiet run has no verbosity.
-/
def ofOptions (mode : Mode) (verbosity : Nat) (quiet terminal : Bool) (now : Timestamp)
    : Console where
  mode := mode
  colors := mode = .human && terminal && !quiet
  verbosity := if quiet then 0 else verbosity
  quiet := quiet
  now := now

/-- The run is verbose enough for texts of a level, and not quiet. -/
def shows (c : Console) (level : Nat) : Bool :=
  !c.quiet && level ≤ c.verbosity

/-- A printed text on standard output. -/
def out (text : String) : Printed := ⟨.out, text⟩

/-- A printed text on standard error. -/
def err (text : String) : Printed := ⟨.err, text⟩

/-- A color or weight of text on a terminal. -/
inductive Style where
  | red
  | green
  | yellow
  | cyan
  | bold
  | dim
deriving DecidableEq, Repr

/-- The code that switches a style on. -/
def Style.code : Style → String
  | red => "\x1b[31m"
  | green => "\x1b[32m"
  | yellow => "\x1b[33m"
  | cyan => "\x1b[36m"
  | bold => "\x1b[1m"
  | dim => "\x1b[2m"

/-- A text in some styles, all switched off behind it. -/
def styled (styles : List Style) (text : String) : String :=
  String.join (styles.map Style.code) ++ text ++ "\x1b[0m"

/-- What a message tells. -/
inductive Kind where
  | success
  | error
  | warning
  | info
deriving DecidableEq, Repr

namespace Kind

/-- The picture before a message in colors. -/
def picture : Kind → String
  | success => "✅ "
  | error => "❌ "
  | warning => "⚠️  "
  | info => "ℹ️  "

/-- The sign before a message without colors. -/
def sign : Kind → String
  | success => "✓"
  | error => "✗"
  | warning => "!"
  | info => "i"

/-- The styles of a message in colors. -/
def styles : Kind → List Style
  | success => [.green, .bold]
  | error => [.red, .bold]
  | warning => [.yellow, .bold]
  | info => [.cyan]

/-- The name of a kind of message in JSON. -/
def level : Kind → String
  | success => "success"
  | error => "error"
  | warning => "warning"
  | info => "info"

/-- The word before a message in plain texts. -/
def word : Kind → String
  | success => "SUCCESS"
  | error => "ERROR"
  | warning => "WARNING"
  | info => "INFO"

/-- People are shown what went wrong on standard error. -/
def stream : Kind → Stream
  | success | info => .out
  | error | warning => .err

end Kind

/-- A message as JSON, with its fields in order of their names. Only errors go to standard error,
so that standard output holds everything else in order.
-/
def jsonMessage (c : Console) (level message : String) : Printed :=
  let text := (Json.object [
    ("level", .string level),
    ("message", .string message),
    ("timestamp", .string c.now.renderWithOffset),
    ("type", .string "message")
  ]).render
  if level = "error" then err text else out text

/-- A message in the form of the mode. -/
def message (c : Console) (kind : Kind) (text : String) : Printed :=
  match c.mode with
  | .human =>
    if c.colors then ⟨kind.stream, kind.picture ++ styled kind.styles text⟩
    else ⟨kind.stream, kind.sign ++ " " ++ text⟩
  | .json => c.jsonMessage kind.level text
  | .plain => ⟨kind.stream, kind.word ++ ": " ++ text⟩

/-- Prints that something was done. -/
def success (c : Console) (text : String) : List Printed :=
  if c.shows 0 then [c.message .success text] else []

/-- Prints an error, also in a quiet run. -/
def error (c : Console) (text : String) : List Printed :=
  [c.message .error text]

/-- Prints a warning. -/
def warning (c : Console) (text : String) : List Printed :=
  if c.shows 0 then [c.message .warning text] else []

/-- Prints what a verbose run is told. -/
def info (c : Console) (text : String) : List Printed :=
  if c.shows 1 then [c.message .info text] else []

/-- Prints what a very verbose run is told. -/
def debug (c : Console) (text : String) : List Printed :=
  if c.shows 2 then
    match c.mode with
    | .human =>
      if c.colors then [out ("  " ++ styled [.dim] text)] else [out ("  DEBUG: " ++ text)]
    | .json => [c.jsonMessage "debug" text]
    | .plain => [out ("DEBUG: " ++ text)]
  else []

/-- Prints that a part of the run begins. -/
def start (c : Console) (operation : String) : List Printed :=
  if c.shows 1 then
    match c.mode with
    | .human =>
      if c.colors then [out ("🚀 " ++ styled [.bold] operation)] else [out ("> " ++ operation)]
    | .json => [c.jsonMessage "operation_start" operation]
    | .plain => [out ("STARTING: " ++ operation)]
  else []

/-- A line of one character. -/
def rule (c : Char) : String :=
  String.ofList (List.replicate 60 c)

/-- Prints a line between two parts. -/
def separator (c : Console) : List Printed :=
  if c.quiet then []
  else
    match c.mode with
    | .human => if c.colors then [out (styled [.dim] (rule '─'))] else [out (rule '-')]
    | .plain => [out (rule '-')]
    | .json => []

end Console

end Casebook
