import Casebook.Pattern.Fault
import Casebook.Text.Blank

/-! Flags of a pattern, which change how the rest of a group is read, and the reading of text
that may be spread out with blanks and comments.
-/

namespace Casebook.Pattern

/-- The flags in force at a place of a pattern. -/
structure Flags where
  ignoreCase : Bool := false
  multiLine : Bool := false
  dotAll : Bool := false
  swapGreed : Bool := false
  unicode : Bool := true
  anyLineEnd : Bool := false
  verbose : Bool := false
deriving Repr, DecidableEq

namespace Flags

/-- The flags with the one that a letter names set, if the letter names one. -/
def set? (f : Flags) (letter : Char) (value : Bool) : Option Flags :=
  match letter with
  | 'i' => some { f with ignoreCase := value }
  | 'm' => some { f with multiLine := value }
  | 's' => some { f with dotAll := value }
  | 'U' => some { f with swapGreed := value }
  | 'u' => some { f with unicode := value }
  | 'R' => some { f with anyLineEnd := value }
  | 'x' => some { f with verbose := value }
  | _ => none

/-- The text from its first character that is neither blank nor in a comment, which runs from a
hash to the end of its line.
-/
def pastBlanks (inComment : Bool) : List Char → List Char
  | [] => []
  | c :: rest =>
    if inComment then pastBlanks (c ≠ '\n') rest
    else if Text.isBlank c then pastBlanks false rest
    else if c = '#' then pastBlanks true rest
    else c :: rest

/-- The text from the next character that counts: all of them do unless the pattern is spread
out.
-/
def skip (f : Flags) (text : List Char) : List Char :=
  if f.verbose then pastBlanks false text else text

/-- The characters of a text up to the first that does not pass a test, where those that do not
count are skipped after each, and the text from there. The text is shorter after every character,
so as many rounds as it has characters are enough.
-/
def takeWhile (f : Flags) (test : Char → Bool) (text : List Char) : List Char × List Char :=
  go text.length text
where
  go : Nat → List Char → List Char × List Char
    | 0, text => ([], text)
    | _ + 1, [] => ([], [])
    | rounds + 1, c :: rest =>
      if test c then
        let (taken, left) := go rounds (f.skip rest)
        (c :: taken, left)
      else ([], c :: rest)

end Flags

/-- Where a list of flags ends: the flags after it, whether it names any, the character that
ends it and the text from there.
-/
structure FlagList where
  flags : Flags
  isEmpty : Bool
  terminator : Char
  rest : List Char

/-- Reads flags up to the colon or bracket that ends them. No flag may come twice, on or off, and
a minus has to be followed by a flag.
-/
def FlagList.read (flags : Flags) (seen : List Char) : List Char → Except Fault FlagList
  | [] => .error .flags
  | c :: rest =>
    if c = ':' ∨ c = ')' then
      if seen.head? = some '-' then .error .flags
      else .ok { flags := flags, isEmpty := seen.isEmpty, terminator := c, rest := rest }
    else if c ∈ seen then .error .flags
    else if c = '-' then FlagList.read flags (c :: seen) rest
    else
      match flags.set? c (!seen.contains '-') with
      | some flags => FlagList.read flags (c :: seen) rest
      | none => .error .flags

end Casebook.Pattern
