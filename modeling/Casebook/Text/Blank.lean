/-! Blank characters and trimming. A character is blank exactly when it has the `White_Space`
property, which is wider than the blanks of ASCII and does not include U+200B or U+FEFF.
-/

namespace Casebook.Text

/-- The characters with the `White_Space` property, listed range by range. -/
def isBlank (c : Char) : Bool :=
  let n := c.toNat
  (0x09 ≤ n && n ≤ 0x0D) || n == 0x20 || n == 0x85 || n == 0xA0 || n == 0x1680
    || (0x2000 ≤ n && n ≤ 0x200A) || n == 0x2028 || n == 0x2029 || n == 0x202F
    || n == 0x205F || n == 0x3000

/-- The text without the blanks it begins with. -/
def trimStart (text : List Char) : List Char :=
  text.dropWhile isBlank

/-- The text without the blanks it ends with. -/
def trimEnd (text : List Char) : List Char :=
  (text.reverse.dropWhile isBlank).reverse

/-- The text without the blanks at either end; blanks inside it stay. -/
def trim (text : List Char) : List Char :=
  trimEnd (trimStart text)

/-- The text is empty or holds blanks only. -/
def isAllBlank (text : List Char) : Bool :=
  text.all isBlank

end Casebook.Text
