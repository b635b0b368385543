import Casebook.Pattern.Escape

/-! Bracketed classes of characters: items side by side, classes within classes, and the
operators that combine them from left to right.
-/

namespace Casebook.Pattern

open Unicode (CodeSet)

/-- A set with the number of brackets and operators that it is nested in. -/
structure Nested where
  set : CodeSet
  depth : Nat

/-- An operator between two sets of a class. -/
inductive ClassOp where
  | both
  | without
  | oneSided

/-- A class that is being read: whether it is negated, the operator before the items read last
with what stands before it, and those items, the latest first.
-/
structure OpenClass where
  negated : Bool
  pending : Option (ClassOp × Nested) := none
  items : List Nested := []

namespace OpenClass

/-- The items read last as one set. -/
def operand (o : OpenClass) : Nested :=
  match o.items with
  | [] => ⟨.nothing, 0⟩
  | [item] => item
  | item :: more =>
    {
      set := more.foldl (fun set item => item.set ++ set) item.set
      depth := 1 + (o.items.map (·.depth)).foldl max 0
    }

/-- All that was read as one set, the pending operator applied. -/
def combined (f : Flags) (o : OpenClass) : Nested :=
  match o.pending with
  | none => o.operand
  | some (op, left) =>
    let right := o.operand
    let a := f.inAnyCase left.set
    let b := f.inAnyCase right.set
    {
      set :=
        match op with
        | .both => a.inter b
        | .without => a.minus b
        | .oneSided => a.oneSided b
      depth := 1 + max left.depth right.depth
    }

/-- The class with one more item. -/
def add (o : OpenClass) (item : Nested) : OpenClass :=
  { o with items := item :: o.items }

/-- The class with an operator after what was read. -/
def operate (f : Flags) (op : ClassOp) (o : OpenClass) : OpenClass :=
  { negated := o.negated, pending := some (op, o.combined f) }

end OpenClass

/-- Reads the start of a class, behind its opening bracket: a hat that negates it, hyphens that
stand for themselves, and a closing bracket that does too where nothing comes before it.
-/
def OpenClass.read (f : Flags) (text : List Char) : Except Fault (OpenClass × List Char) :=
  let text := f.skip text
  let negated := text.head? = some '^'
  let text := if negated then f.skip text.tail else text
  let (hyphens, text) := f.takeWhile (· = '-') text
  let start : OpenClass :=
    { negated := negated, items := hyphens.map fun c => ⟨.ofChar c, 0⟩ }
  match text with
  | [] => .error .unclosedClass
  | ']' :: rest =>
    if !hyphens.isEmpty then .ok (start, text)
    else
      let rest := f.skip rest
      if rest.isEmpty then .error .unclosedClass else .ok (start.add ⟨.ofChar ']', 0⟩, rest)
  | _ => .ok (start, text)

/-- Reads an ASCII class such as `[:alpha:]`, behind its opening bracket, where there is one. -/
def readAsciiClass? (f : Flags) (text : List Char) : Option (Except Fault CodeSet × List Char) :=
  match text with
  | ':' :: rest =>
    let negated := rest.head? = some '^'
    let rest := if negated then rest.tail else rest
    match rest.span (· ≠ ':') with
    | (name, ':' :: ']' :: rest) =>
      (asciiClass? (String.ofList name)).map fun set => (settle f negated set, rest)
    | _ => none
  | _ => none

/-- A single item of a class: a character or a set. -/
inductive ClassItem where
  | char (c : Char) (isByte : Bool)
  | set (s : CodeSet)

/-- Reads a single item. -/
def ClassItem.read (f : Flags) : List Char → Except Fault (ClassItem × List Char)
  | [] => .error .unclosedClass
  | '\\' :: rest => do
    match ← Escape.read f rest with
    | (.char c isByte, rest) => .ok (.char c isByte, rest)
    | (.set s, rest) => .ok (.set s, rest)
    | (.look _, _) => .error .classItem
  | c :: rest => .ok (.char c false, rest)

/-- The character of an item that has to be one. Without Unicode it has to be an ASCII character,
and a byte beyond ASCII is part of a character.
-/
def ClassItem.toChar (f : Flags) : ClassItem → Except Fault Char
  | .set _ => .error .classItem
  | .char c isByte =>
    if f.unicode || c.toNat < 0x80 then .ok c
    else if isByte then .error .notText
    else .error .classItem

/-- Reads an item or a range of characters. A hyphen makes a range unless the class ends behind
it or another hyphen follows.
-/
def readRange (f : Flags) (text : List Char) : Except Fault (CodeSet × List Char) := do
  let (item, rest) ← ClassItem.read f text
  let single (rest : List Char) : Except Fault (CodeSet × List Char) :=
    match item with
    | .set s => .ok (s, rest)
    | .char .. => do .ok (.ofChar (← item.toChar f), rest)
  match f.skip rest with
  | [] => .error .unclosedClass
  | '-' :: more =>
    match f.skip more with
    | [] => .error .unclosedClass
    | ']' :: _ | '-' :: _ => single ('-' :: more)
    | next => do
      let (last, rest) ← ClassItem.read f next
      let low ← item.toChar f
      let high ← last.toChar f
      if high < low then .error .classRange else .ok (.ofChars low high, rest)
  | rest => single rest

/-- Reads a class to its end, from inside the class `o` that stands in the classes `outer`. Each
round reads at least one character, so as many rounds as there are characters are enough.
-/
def readClass (f : Flags) : Nat → OpenClass → List OpenClass → List Char
    → Except Fault (Nested × List Char)
  | 0, _, _, _ => .error .unclosedClass
  | rounds + 1, o, outer, text =>
    match f.skip text with
    | [] => .error .unclosedClass
    | '[' :: rest =>
      match readAsciiClass? f rest with
      | some (set, rest) => do
        let set ← set
        readClass f rounds (o.add ⟨set, 0⟩) outer rest
      | none => do
        let (inner, rest) ← OpenClass.read f rest
        readClass f rounds inner (o :: outer) rest
    | ']' :: rest => do
      let all := o.combined f
      let set ← settle f o.negated all.set
      let closed : Nested := ⟨set, all.depth + 1⟩
      match outer with
      | [] => .ok (closed, rest)
      | parent :: outer => readClass f rounds (parent.add closed) outer rest
    | '&' :: '&' :: rest => readClass f rounds (o.operate f .both) outer rest
    | '-' :: '-' :: rest => readClass f rounds (o.operate f .without) outer rest
    | '~' :: '~' :: rest => readClass f rounds (o.operate f .oneSided) outer rest
    | text => do
      let (set, rest) ← readRange f text
      readClass f rounds (o.add ⟨set, 0⟩) outer rest

/-- Reads a class behind its opening bracket. -/
def readBracket (f : Flags) (text : List Char) : Except Fault (Nested × List Char) := do
  let (o, rest) ← OpenClass.read f text
  readClass f (rest.length + 1) o [] rest

end Casebook.Pattern
