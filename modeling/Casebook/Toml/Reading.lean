import Casebook.Toml.Number

/-! Keys and values of a document. An inline table is built from its pairs at once, so that the
values of a document hold no traces of how they were written.
-/

namespace Casebook.Toml

/-- Reads a simple key: a string of one line, or characters that need no quotes. -/
def readSimpleKey : List Char → Except Fault (String × List Char)
  | [] => .error (.expected "a key")
  | '"' :: rest => (readBasic rest).map fun (key, rest) => (String.ofList key, rest)
  | '\'' :: rest => (readLiteral rest).map fun (key, rest) => (String.ofList key, rest)
  | c :: rest =>
    if isBare c then
      .ok (String.ofList (c :: rest.takeWhile isBare), rest.dropWhile isBare)
    else .error (.expected "a key")

/-- Reads the parts of a key, at most `limit` of them, with dots between them and spaces around
them.
-/
def readKeyParts : Nat → List Char → Except Fault (List String × List Char)
  | 0, _ => .error .tooDeep
  | limit + 1, text => do
    let (part, rest) ← readSimpleKey (skipSpaces text)
    match skipSpaces rest with
    | '.' :: rest =>
      let (parts, rest) ← readKeyParts limit rest
      .ok (part :: parts, rest)
    | rest => .ok ([part], rest)

/-- Reads a key. -/
def readKey (text : List Char) : Except Fault (List String × List Char) :=
  readKeyParts maxDepth text

/-- A key with its value. -/
abbrev Pair := List String × Value

/-- Reads a key and the value after it, with spaces around both. -/
def readPair (readValue : List Char → Except Fault (Value × List Char)) (text : List Char)
    : Except Fault (Pair × List Char) := do
  match ← readKey text with
  | (key, '=' :: rest) =>
    let (value, rest) ← readValue (skipSpaces rest)
    .ok ((key, value), skipSpaces rest)
  | _ => .error (.expected "an equals sign")

/-- Reads the items of an array and the bracket that ends it. A comma may follow the last item.
There are fewer items than `fuel`.
-/
def readItems (readValue : List Char → Except Fault (Value × List Char))
    : Nat → List Char → Except Fault (List Value × List Char)
  | 0, _ => .error (.expected "a closing bracket")
  | fuel + 1, text =>
    match skipGaps false text with
    | ']' :: rest => .ok ([], rest)
    | text => do
      let (item, rest) ← readValue text
      match skipGaps false rest with
      | ']' :: rest => .ok ([item], rest)
      | ',' :: rest =>
        let (items, rest) ← readItems readValue fuel rest
        .ok (item :: items, rest)
      | _ => .error (.expected "a comma or a closing bracket")

/-- Reads the pairs of an inline table and the brace that ends it. Commas stand between any two.
There are at most `fuel` pairs.
-/
def readPairs (readValue : List Char → Except Fault (Value × List Char))
    : Nat → List Char → Except Fault (List Pair × List Char)
  | 0, _ => .error (.expected "a closing brace")
  | fuel + 1, text => do
    let (pair, rest) ← readPair readValue text
    match rest with
    | '\x7d' :: rest => .ok ([pair], rest)
    | ',' :: rest =>
      let (pairs, rest) ← readPairs readValue fuel rest
      .ok (pair :: pairs, rest)
    | _ => .error (.expected "a comma or a closing brace")

/-- A part of an inline table: a value, or a table that dotted keys have opened and may add to. -/
inductive Part where
  | single (value : Value)
  | opened (parts : List (String × Part))

namespace Part

/-- Puts a value at a dotted key. No key is set twice, and what a dotted key leads through is
opened by dotted keys only.
-/
def put (value : Value) : List String → List (String × Part)
    → Except Fault (List (String × Part))
  | [], _ => .error (.expected "a key")
  | [key], parts =>
    if parts.any (·.1 = key) then .error (.duplicateKey key)
    else .ok (parts ++ [(key, .single value)])
  | key :: path, parts =>
    match parts.lookup key with
    | none => do
      let inner ← put value path []
      .ok (parts ++ [(key, .opened inner)])
    | some (.opened inner) => do
      let inner ← put value path inner
      .ok (parts.map fun part => if part.1 = key then (key, .opened inner) else part)
    | some (.single _) => .error (.duplicateKey key)

mutual
/-- The value that a part stands for. -/
def toValue : Part → Value
  | .single value => value
  | .opened parts => .table (toEntries parts)

/-- The entries that some parts stand for. -/
def toEntries : List (String × Part) → List (String × Value)
  | [] => []
  | (key, part) :: rest => (key, part.toValue) :: toEntries rest
end

end Part

/-- The inline table with given pairs. -/
def inlineTable (pairs : List Pair) : Except Fault Value := do
  let parts ← pairs.foldlM (fun parts (key, value) => Part.put value key parts) []
  .ok (.table (Part.toEntries parts))

/-- Reads a value in which arrays and inline tables are nested at most `depth` deep. -/
def readValueWithin : Nat → List Char → Except Fault (Value × List Char)
  | _, [] => .error (.expected "a value")
  | 0, '[' :: _ => .error .tooDeep
  | 0, '\x7b' :: _ => .error .tooDeep
  | depth + 1, '[' :: rest => do
    let (items, rest) ← readItems (readValueWithin depth) (rest.length + 1) rest
    .ok (.array items, rest)
  | depth + 1, '\x7b' :: rest =>
    match skipSpaces rest with
    | '\x7d' :: rest => .ok (.table [], rest)
    | rest => do
      let (pairs, rest) ← readPairs (readValueWithin depth) (rest.length + 1) rest
      .ok (← inlineTable pairs, rest)
  | _, '"' :: rest => do
    let (text, rest) ← readText ('"' :: rest)
    .ok (.string (String.ofList text), rest)
  | _, '\'' :: rest => do
    let (text, rest) ← readText ('\'' :: rest)
    .ok (.string (String.ofList text), rest)
  | _, 't' :: 'r' :: 'u' :: 'e' :: rest => .ok (.boolean true, rest)
  | _, 'f' :: 'a' :: 'l' :: 's' :: 'e' :: rest => .ok (.boolean false, rest)
  | _, text => readNumber text

/-- Reads a value. -/
def readValue (text : List Char) : Except Fault (Value × List Char) :=
  readValueWithin maxDepth text

end Casebook.Toml
