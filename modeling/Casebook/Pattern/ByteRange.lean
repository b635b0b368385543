import Casebook.Unicode.CodeSet

/-! Sets of code points as sequences of byte ranges. A text is stored in UTF-8, so a machine that
reads bytes has to know a set as the sequences of bytes that encode its code points.
-/

namespace Casebook.Pattern

/-- The bytes from one to another. -/
structure ByteRange where
  low : Nat
  high : Nat
deriving Repr, DecidableEq

namespace ByteRange

/-- The bytes of a code point in UTF-8. -/
def encode (code : Nat) : List Nat :=
  if code < 0x80 then [code]
  else if code < 0x800 then [0xC0 + code / 0x40, 0x80 + code % 0x40]
  else if code < 0x10000 then
    [0xE0 + code / 0x1000, 0x80 + code / 0x40 % 0x40, 0x80 + code % 0x40]
  else
    [0xF0 + code / 0x40000, 0x80 + code / 0x1000 % 0x40, 0x80 + code / 0x40 % 0x40,
      0x80 + code % 0x40]

/-- The last code points with one, two, three and four bytes. -/
def lastOfLength : List Nat :=
  [0x7F, 0x7FF, 0xFFFF, 0x10FFFF]

/-- The parts of a range of code points that lie between the ends of given intervals, which begin
at `start` and end at the code points of `ends`.
-/
def cutAt (low high : Nat) : Nat → List Nat → List (Nat × Nat)
  | _, [] => []
  | start, last :: more =>
    let low' := max low start
    let high' := min high last
    if low' ≤ high' then (low', high') :: cutAt low high (last + 1) more
    else cutAt low high (last + 1) more

/-- The parts of a range of code points that each are encoded by all sequences of one byte from
each of some ranges. The size of a block of code points that differ in their last bytes only is
given for one, two and three bytes; a part either lies in one block or is made of whole ones.
-/
def cutBlocks (low high : Nat) : List Nat → List (Nat × Nat)
  | [] => [(low, high)]
  | block :: larger =>
    if low / block = high / block then [(low, high)]
    else
      let first := (low + block - 1) / block * block
      let last := (high + 1) / block * block
      (if low < first then [(low, first - 1)] else [])
        ++ (if first < last then cutBlocks first (last - 1) larger else [])
        ++ (if last ≤ high then [(last, high)] else [])

/-- The sequences of byte ranges that encode a range of code points, in order. -/
def sequencesOf (low high : Nat) : List (List ByteRange) :=
  (cutAt low high 0 lastOfLength).flatMap fun (low, high) =>
    let parts := if high < 0x80 then [(low, high)] else cutBlocks low high [0x40, 0x1000, 0x40000]
    parts.map fun (low, high) => (encode low).zipWith ByteRange.mk (encode high)

/-- The sequences of byte ranges that encode a set whose ranges are in order and apart. -/
def sequences (s : Unicode.CodeSet) : List (List ByteRange) :=
  s.ranges.flatMap fun (low, high) => sequencesOf low high

end ByteRange

end Casebook.Pattern
