import Casebook.Pattern.Bracket
import Casebook.Pattern.Machine
import Casebook.Unicode.Current

/-! Reading patterns. A pattern is read from left to right, with the groups that are still open
kept on a stack; the flags of a group end with it.
-/

namespace Casebook.Pattern

/-- An expression that was read, with how deeply it is nested. What sets flags stands for nothing
that could be repeated.
-/
structure Piece where
  expr : Expr
  depth : Nat
  repeatable : Bool := true

namespace Piece

/-- The piece that matches the empty text. -/
def empty : Piece where
  expr := .empty
  depth := 0

/-- Several pieces as one, where a single piece is not nested any deeper. -/
def merge (op : List Expr → Expr) (pieces : List Piece) : Piece :=
  match pieces with
  | [] => empty
  | [piece] => piece
  | pieces =>
    {
      expr := op (pieces.map (·.expr))
      depth := 1 + (pieces.map (·.depth)).foldl max 0
    }

end Piece

/-- A group that is being read: the flags in force, its number if it has one, the pieces since its
last bar and the choices before it, the latest first.
-/
structure OpenGroup where
  flags : Flags
  number : Option Nat := none
  pieces : List Piece := []
  choices : List Piece := []

namespace OpenGroup

/-- The pieces since the last bar as one. -/
def sequence (g : OpenGroup) : Piece :=
  Piece.merge Expr.sequence g.pieces.reverse

/-- All that was read as one piece. -/
def finish (g : OpenGroup) : Piece :=
  match g.choices with
  | [] => g.sequence
  | choices => Piece.merge Expr.choice (g.sequence :: choices).reverse

/-- The group as a piece of the group around it. -/
def close (g : OpenGroup) : Piece :=
  let piece := g.finish
  {
    expr := g.number.elim piece.expr fun number => .group number piece.expr
    depth := piece.depth + 1
  }

/-- The group with one more piece. -/
def add (g : OpenGroup) (piece : Piece) : OpenGroup :=
  { g with pieces := piece :: g.pieces }

/-- The group with a bar after what was read. -/
def divide (g : OpenGroup) : OpenGroup :=
  { g with pieces := [], choices := g.sequence :: g.choices }

/-- The group with its last piece repeated, as seldom as can be if that is lazy. -/
def repeatLast (g : OpenGroup) (least : Nat) (most : Option Nat) (isLazy : Bool)
    : Except Fault OpenGroup :=
  match g.pieces with
  | [] => .error .nothingToRepeat
  | piece :: before =>
    if !piece.repeatable then .error .nothingToRepeat
    else
      let repetition := piece.expr.repeated least most (isLazy == g.flags.swapGreed)
      .ok { g with pieces := { expr := repetition, depth := piece.depth + 1 } :: before }

end OpenGroup

/-- What a bracket opens: the rest of the group with other flags, or a group of its own with
flags, which has a number unless it is plain and may have a name.
-/
inductive GroupStart where
  | setFlags (flags : Flags)
  | plain (flags : Flags)
  | numbered (flags : Flags) (name : Option (List Char))

/-- The character can stand in the name of a group, where the first one is a letter. -/
def isGroupNameChar (isFirst : Bool) (c : Char) : Bool :=
  if isFirst then c = '_' || Unicode.Current.alphabetic.contains c.toNat
  else
    c = '_' || c = '.' || c = '[' || c = ']' || Unicode.Current.alphanumeric.contains c.toNat

/-- The text behind another that it begins with. -/
def behind? (start : String) (text : List Char) : Option (List Char) :=
  if start.toList.isPrefixOf text then some (text.drop start.toList.length) else none

/-- Reads what follows an opening bracket. -/
def GroupStart.read (f : Flags) (text : List Char) : Except Fault (GroupStart × List Char) :=
  let text := f.skip text
  if ["?=", "?!", "?<=", "?<!"].any fun start => (behind? start text).isSome then
    .error .unsupported
  else
    match (behind? "?P<" text).orElse fun _ => behind? "?<" text with
    | some rest =>
      match rest.span (· ≠ '>') with
      | (first :: more, _ :: rest) =>
        if isGroupNameChar true first && more.all (isGroupNameChar false) then
          .ok (.numbered f (some (first :: more)), rest)
        else .error .groupName
      | _ => .error .groupName
    | none =>
      match text with
      | '?' :: rest => do
        let list ← FlagList.read f [] rest
        if list.terminator = ':' then .ok (.plain list.flags, list.rest)
        else if list.isEmpty then .error .nothingToRepeat
        else .ok (.setFlags list.flags, list.rest)
      | _ => .ok (.numbered f none, text)

/-- The largest count of a repetition. -/
def maxCount : Nat := 4294967295

/-- Reads a number that may stand between blanks, or nothing where no digit follows. -/
def readNumber (f : Flags) (text : List Char) : Except Fault (Option Nat × List Char) :=
  let (digits, rest) := f.takeWhile Char.isDigit (text.dropWhile Text.isBlank)
  let rest := f.skip (rest.dropWhile Text.isBlank)
  if digits.isEmpty then .ok (none, rest)
  else
    let n := digits.foldl (fun n c => n * 10 + (c.toNat - '0'.toNat)) 0
    if n > maxCount then .error .count else .ok (some n, rest)

/-- Reads the count of a repetition, behind its opening brace: a number, or a least number and a
comma with or without a greatest one.
-/
def readCount (f : Flags) (text : List Char)
    : Except Fault (Nat × Option Nat × List Char) := do
  let (least?, rest) ← readNumber f (f.skip text)
  let some least := least? | .error .count
  match rest with
  | '\x7d' :: rest => .ok (least, some least, rest)
  | ',' :: rest => do
    match f.skip rest with
    | '\x7d' :: rest => .ok (least, none, rest)
    | rest => do
      let (most?, rest) ← readNumber f rest
      let some most := most? | .error .count
      match rest with
      | '\x7d' :: rest => if least ≤ most then .ok (least, some most, rest) else .error .count
      | _ => .error .count
  | _ => .error .count

/-- Whether a question mark makes a repetition lazy, and the text behind it. -/
def readLazy : List Char → Bool × List Char
  | '?' :: rest => (true, rest)
  | rest => (false, rest)

/-- A character that stands for itself, or for all its cases if the flags say so. A byte beyond
ASCII is part of a character, which no text holds by itself.
-/
def charExpr (f : Flags) (c : Char) (isByte : Bool) : Except Fault Expr :=
  if !f.unicode && isByte && c.toNat ≥ 0x80 then .error .notText
  else if f.ignoreCase then .ok (.ofSet (f.inAnyCase (.ofChar c)))
  else .ok (.literal [c])

/-- The dot: any character, but no line end unless the flags say so. -/
def dotExpr (f : Flags) : Except Fault Expr :=
  if !f.unicode then .error .notText
  else if f.dotAll then .ok (.ofSet .everything)
  else if f.anyLineEnd then .ok (.ofSet (.ofText "0-9 B-C E-10FFFF"))
  else .ok (.ofSet (.ofText "0-9 B-10FFFF"))

/-- Reads one character, escape or anchor that is no group, class or repetition. -/
def readPiece (f : Flags) (c : Char) (rest : List Char) : Except Fault (Piece × List Char) :=
  match c with
  | '\\' => do
    match ← Escape.read f rest with
    | (.char c isByte, rest) => .ok ({ expr := ← charExpr f c isByte, depth := 0 }, rest)
    | (.set s, rest) => .ok ({ expr := .ofSet s, depth := 0 }, rest)
    | (.look l, rest) => .ok ({ expr := .look l, depth := 0 }, rest)
  | '.' => do .ok ({ expr := ← dotExpr f, depth := 0 }, rest)
  | '^' =>
    let look : Look :=
      if !f.multiLine then .textStart else if f.anyLineEnd then .anyLineStart else .lineStart
    .ok ({ expr := .look look, depth := 0 }, rest)
  | '$' =>
    let look : Look :=
      if !f.multiLine then .textEnd else if f.anyLineEnd then .anyLineEnd else .lineEnd
    .ok ({ expr := .look look, depth := 0 }, rest)
  | c => do .ok ({ expr := ← charExpr f c false, depth := 0 }, rest)

/-- Reads a pattern to its end, from inside the group `g` that stands in the groups `outer`. There
are `count` numbered groups before, whose names are in `names`. Each round reads at least one
character, so as many rounds as there are characters are enough.
-/
def readGroups : Nat → OpenGroup → List OpenGroup → Nat → List (List Char) → List Char
    → Except Fault Piece
  | 0, _, _, _, _, _ => .error .unclosedGroup
  | rounds + 1, g, outer, count, names, text =>
    let repeated (least : Nat) (most : Option Nat) (rest : List Char) : Except Fault Piece := do
      let (isLazy, rest) := readLazy rest
      readGroups rounds (← g.repeatLast least most isLazy) outer count names rest
    match g.flags.skip text with
    | [] => if outer.isEmpty then .ok g.finish else .error .unclosedGroup
    | '(' :: rest => do
      match ← GroupStart.read g.flags rest with
      | (.setFlags flags, rest) =>
        let set : Piece := { Piece.empty with repeatable := false }
        readGroups rounds { (g.add set) with flags := flags } outer count names rest
      | (.plain flags, rest) => readGroups rounds { flags := flags } (g :: outer) count names rest
      | (.numbered flags name, rest) =>
        if name.any names.contains then .error .repeatedGroupName
        else
          let inner : OpenGroup := { flags := flags, number := some (count + 1) }
          readGroups rounds inner (g :: outer) (count + 1) (name.toList ++ names) rest
    | ')' :: rest =>
      match outer with
      | [] => .error .unopenedGroup
      | parent :: outer => readGroups rounds (parent.add g.close) outer count names rest
    | '|' :: rest => readGroups rounds g.divide outer count names rest
    | '[' :: rest => do
      let (nested, rest) ← readBracket g.flags rest
      let piece : Piece := { expr := .ofSet nested.set, depth := nested.depth }
      readGroups rounds (g.add piece) outer count names rest
    | '?' :: rest => repeated 0 (some 1) rest
    | '*' :: rest => repeated 0 none rest
    | '+' :: rest => repeated 1 none rest
    | '\x7b' :: rest => do
      if g.pieces.isEmpty then .error .nothingToRepeat
      let (least, most, rest) ← readCount g.flags rest
      repeated least most (g.flags.skip rest)
    | c :: rest => do
      let (piece, rest) ← readPiece g.flags c rest
      readGroups rounds (g.add piece) outer count names rest

/-- The deepest nesting of a pattern. -/
def maxDepth : Nat := 250

end Pattern

/-- A pattern, read from its text. -/
structure Pattern where
  text : String
  expr : Pattern.Expr
deriving Repr, Inhabited

namespace Pattern

/-- Reads a pattern. -/
def ofText (text : String) : Except Fault Pattern := do
  let chars := text.toList
  let piece ← readGroups (chars.length + 1) { flags := {} } [] 0 [] chars
  if piece.depth > maxDepth then .error .tooDeep
  else if piece.expr.isTooLarge then .error .tooLarge
  else .ok { text := text, expr := piece.expr }

/-- Some part of the text matches the pattern. -/
def isMatch (p : Pattern) (text : String) : Bool :=
  p.expr.isMatch text

end Casebook.Pattern
