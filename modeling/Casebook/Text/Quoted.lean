import Casebook.Unicode.Current

/-! Quoted text, the form in which messages name a text that may hold anything. Between the
quotes every character is seen: those that would not be, or would join their neighbour, are
written as escapes.
-/

namespace Casebook.Text

/-- The digits of a number in base sixteen, in lower case and with no zeros in front. -/
def hexDigits (n : Nat) : List Char :=
  Nat.toDigits 16 n

/-- The character stands for itself between quotes. -/
def isVisible (c : Char) : Bool :=
  if c.toNat < 0x80 then 0x20 ≤ c.toNat && c.toNat < 0x7F
  else !Unicode.Current.combining.contains c.toNat
    && !Unicode.Current.invisible.contains c.toNat

/-- The form of a character between quotes. -/
def quotedChar (c : Char) : List Char :=
  if c = '\x00' then ['\\', '0']
  else if c = '\t' then ['\\', 't']
  else if c = '\r' then ['\\', 'r']
  else if c = '\n' then ['\\', 'n']
  else if c = '\\' ∨ c = '"' then ['\\', c]
  else if isVisible c then [c]
  else ['\\', 'u', '\x7b'] ++ hexDigits c.toNat ++ ['\x7d']

/-- A text between double quotes. -/
def quoted (text : String) : String :=
  String.ofList ('"' :: text.toList.flatMap quotedChar ++ ['"'])

end Casebook.Text
