/-! TOML values. A document is a table, and its keys keep the order in which they were given. -/

namespace Casebook.Toml

/-- A value. Of floating point numbers and of dates and times only the text is kept, since no
setting is one.
-/
inductive Value where
  | string (text : String)
  | integer (number : Int)
  | float (text : String)
  | boolean (flag : Bool)
  | dateTime (text : String)
  | array (items : List Value)
  | table (entries : List (String × Value))
deriving Repr, Inhabited

/-- A document. -/
abbrev Table := List (String × Value)

/-- Why a text is no document, or a value not the one that is wanted. -/
inductive Fault where
  | expected (what : String)
  | duplicateKey (key : String)
  | notTable (key : String)
  | outOfRange (text : String)
  | tooDeep
deriving DecidableEq, Repr

namespace Fault

/-- What is wrong. -/
def message : Fault → String
  | .expected what => s!"expected {what}"
  | .duplicateKey key => s!"duplicate key {key}"
  | .notTable key => s!"{key} is not a table"
  | .outOfRange text => s!"number out of range: {text}"
  | .tooDeep => "nested too deeply"

end Fault

/-- The most levels of nesting of arrays and inline tables, and the most parts of a key. -/
def maxDepth : Nat := 79

/-- The largest integer of a document, which is the largest of 64 bits with a sign. -/
def maxInteger : Int := 9223372036854775807

/-- The integers of a document are those of 64 bits with a sign. -/
def isInteger (n : Int) : Bool :=
  -maxInteger - 1 ≤ n && n ≤ maxInteger

/-- The character may stand in a key without quotes. -/
def isBare (c : Char) : Bool :=
  c.isAlphanum || c = '-' || c = '_'

/-- The character may stand in comments and in strings as it is. Of the controls only the tab
may.
-/
def isPlain (c : Char) : Bool :=
  c = '\t' || (0x20 ≤ c.toNat && c.toNat ≠ 0x7F)

/-- The character separates tokens of one line. -/
def isSpace (c : Char) : Bool :=
  c = ' ' || c = '\t'

end Casebook.Toml
