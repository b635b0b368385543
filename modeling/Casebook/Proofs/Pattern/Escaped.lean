import Casebook.Pattern.Parser

/-! How escaped texts are read. Each of their characters stands for itself, in a class and outside
of one, and the normal form of the sequence puts them together again.
-/

namespace Casebook.Pattern

open Unicode (CodeSet)

-----------------------------------------------------------------------------------------
-- One character
-----------------------------------------------------------------------------------------

/-- Every character of a pattern counts unless it is spread out. -/
theorem Flags.skip_plain (text : List Char)
    : ({} : Flags).skip text = text := rfl

/-- A backslash before a character that means something leaves the character. -/
theorem Escape.read_of_isMeta {c : Char} (special : isMeta c = true) (rest : List Char)
    : Escape.read {} (c :: rest) = .ok (.char c false, rest) := by
  have checked
      : ("\\.+*?()|[]\x7b\x7d^$#&-~".toList.all fun c =>
          decide (c.isDigit = false ∧ ¬ (c = 'x' ∨ c = 'u' ∨ c = 'U') ∧ ¬ (c = 'p' ∨ c = 'P')
            ∧ "dswDSW".toList.contains c = false ∧ isEscapable c = true))
        = true := by
    decide
  obtain ⟨digit, hex, property, letter, escapable⟩ :=
    of_decide_eq_true (List.all_eq_true.mp checked c (List.contains_iff_mem.mp special))
  simp only [Escape.read, digit, hex, property, letter, escapable, Bool.false_eq_true, if_false,
    if_true]

theorem escape_of_isMeta {c : Char} (special : isMeta c = true)
    : escape [c] = ['\\', c] := by
  simp [escape, special]

theorem escape_of_not_isMeta {c : Char} (ordinary : isMeta c = false)
    : escape [c] = [c] := by
  simp [escape, ordinary]

theorem escape_cons (c : Char) (text : List Char)
    : escape (c :: text) = escape [c] ++ escape text := by
  simp [escape]

/-- An escaped character is longer by a backslash at most, and not shorter. -/
theorem length_le_length_escape (text : List Char)
    : text.length ≤ (escape text).length := by
  induction text with
  | nil => exact Nat.le_refl 0
  | cons c text ih =>
    rw [escape_cons, List.length_append, List.length_cons, Nat.add_comm]
    refine Nat.add_le_add ?_ ih
    cases special : isMeta c with
    | true => simp [escape_of_isMeta special]
    | false => simp [escape_of_not_isMeta special]

/-- The piece for a character that stands for itself. -/
def Piece.ofChar (c : Char) : Piece where
  expr := .literal [c]
  depth := 0

theorem readPiece_of_isMeta {c : Char} (special : isMeta c = true) (rest : List Char)
    : readPiece {} '\\' (c :: rest) = .ok (.ofChar c, rest) := by
  rw [readPiece, Escape.read_of_isMeta special]
  rfl

theorem readPiece_of_not_isMeta {c : Char} (ordinary : isMeta c = false) (rest : List Char)
    : readPiece {} c rest = .ok (.ofChar c, rest) := by
  unfold readPiece
  split
  case h_5 => rfl
  all_goals cases ordinary

variable {g : OpenGroup} {rounds count : Nat} {outer : List OpenGroup} {names : List (List Char)}

/-- A round of reading takes one escaped character. -/
theorem readGroups_escape_char (flags : g.flags = {}) (c : Char) (rest : List Char)
    : readGroups (rounds + 1) g outer count names (escape [c] ++ rest)
      = readGroups rounds (g.add (.ofChar c)) outer count names rest := by
  cases special : isMeta c with
  | true =>
    rw [escape_of_isMeta special, readGroups, flags]
    change (readPiece {} '\\' (c :: rest) >>= _) = _
    rw [readPiece_of_isMeta special]
    rfl
  | false =>
    rw [escape_of_not_isMeta special, List.singleton_append, readGroups, flags]
    dsimp only
    rw [Flags.skip_plain]
    split
    case h_10 same =>
      cases same
      rw [readPiece_of_not_isMeta special]
      rfl
    case h_1 same => cases same
    all_goals
      rename_i same
      cases same
      cases special

/-- As many rounds as an escaped text has characters take the text, by induction on it. -/
theorem readGroups_escape (flags : g.flags = {}) (text rest : List Char)
    : readGroups (rounds + text.length) g outer count names (escape text ++ rest)
      = readGroups rounds { g with pieces := (text.map Piece.ofChar).reverse ++ g.pieces } outer
          count names rest := by
  induction text generalizing g with
  | nil => rfl
  | cons c text ih =>
    rw [escape_cons, List.append_assoc, List.length_cons, ← Nat.add_assoc,
      readGroups_escape_char flags, ih (g := g.add (.ofChar c)) flags]
    simp [OpenGroup.add]

-----------------------------------------------------------------------------------------
-- Classes of one character
-----------------------------------------------------------------------------------------

/-- In a class, too, an escaped character stands for itself. -/
theorem ClassItem.read_escape (c : Char) (rest : List Char)
    : ClassItem.read {} (escape [c] ++ rest) = .ok (.char c false, rest) := by
  cases special : isMeta c with
  | true =>
    rw [escape_of_isMeta special]
    change (Escape.read {} (c :: rest) >>= _) = _
    rw [Escape.read_of_isMeta special]
    rfl
  | false =>
    rw [escape_of_not_isMeta special]
    unfold ClassItem.read
    split
    case h_3 same =>
      cases same
      rfl
    case h_1 same => cases same
    case h_2 same =>
      cases same
      cases special

/-- An escaped character begins with none of the characters that begin something else in a class. -/
theorem exists_escape_eq_cons (c : Char)
    : ∃ first more, escape [c] = first :: more ∧ first ∉ ['[', ']', '&', '-', '~'] := by
  cases special : isMeta c with
  | true => exact ⟨'\\', [c], escape_of_isMeta special, by decide⟩
  | false =>
    refine ⟨c, [], escape_of_not_isMeta special, fun member => ?_⟩
    have checked : ['[', ']', '&', '-', '~'].all isMeta = true := by decide
    exact absurd (List.all_eq_true.mp checked c member) (by simp [special])

theorem readRange_escape (c : Char) (rest : List Char)
    : readRange {} (escape [c] ++ ']' :: rest) = .ok (.ofChar c, ']' :: rest) := by
  rw [readRange, ClassItem.read_escape]
  rfl

/-- A class that begins with a hat and an escaped character is negated, and holds nothing yet. -/
theorem OpenClass.read_escape (c : Char) (rest : List Char)
    : OpenClass.read {} ('^' :: (escape [c] ++ rest))
      = .ok ({ negated := true }, escape [c] ++ rest) := by
  obtain ⟨first, more, escaped, other⟩ := exists_escape_eq_cons c
  have noHyphen : ({} : Flags).takeWhile (· = '-') (first :: (more ++ rest))
      = ([], first :: (more ++ rest)) := by
    have : first ≠ '-' := fun same => other (by simp [same])
    simp [Flags.takeWhile, Flags.takeWhile.go, this]
  rw [escaped, List.cons_append, OpenClass.read]
  dsimp only [Flags.skip_plain, List.head?_cons, List.tail_cons]
  simp only [decide_true, if_true, noHyphen]
  split
  case h_1 same => cases same
  case h_2 same =>
    cases same
    exact absurd (by simp) other
  case h_3 => rfl

/-- A round of reading a class takes one escaped character. -/
theorem readClass_escape {o : OpenClass} {outer : List OpenClass} (c : Char) (rest : List Char)
    : readClass {} (rounds + 1) o outer (escape [c] ++ ']' :: rest)
      = readClass {} rounds (o.add ⟨.ofChar c, 0⟩) outer (']' :: rest) := by
  have range := readRange_escape c rest
  obtain ⟨first, more, escaped, other⟩ := exists_escape_eq_cons c
  rw [escaped, List.cons_append] at range ⊢
  rw [readClass, Flags.skip_plain]
  split
  case h_7 =>
    rw [range]
    rfl
  case h_1 same => cases same
  all_goals
    rename_i same
    rw [(List.cons.inj same).1] at other
    exact absurd (by simp) other

/-- A class of all characters but an escaped one. -/
theorem readBracket_escape (c : Char) (rest : List Char)
    : readBracket {} ('^' :: (escape [c] ++ ']' :: rest))
      = .ok (⟨(CodeSet.ofChar c).complement, 1⟩, rest) := by
  have rounds : (escape [c] ++ ']' :: rest).length + 1
      = (escape [c]).length + rest.length + 1 + 1 := by simp [Nat.add_assoc]
  rw [readBracket, OpenClass.read_escape]
  change readClass {} ((escape [c] ++ ']' :: rest).length + 1) { negated := true } [] _ = _
  rw [rounds, readClass_escape]
  rfl

/-- A round of reading takes a class of all characters but an escaped one. -/
theorem readGroups_class (flags : g.flags = {}) (c : Char) (rest : List Char)
    : readGroups (rounds + 1) g outer count names ('[' :: '^' :: (escape [c] ++ ']' :: rest))
      = readGroups rounds (g.add { expr := .ofSet (CodeSet.ofChar c).complement, depth := 1 }) outer
          count names rest := by
  rw [readGroups, flags]
  change (readBracket {} ('^' :: (escape [c] ++ ']' :: rest)) >>= _) = _
  rw [readBracket_escape]
  rfl

-----------------------------------------------------------------------------------------
-- Sequences
-----------------------------------------------------------------------------------------

/-- Several pieces as one are nested once more than the deepest of them. -/
theorem Piece.merge_of_two_le {op : List Expr → Expr} {pieces : List Piece}
    (several : 2 ≤ pieces.length)
    : Piece.merge op pieces
      = { expr := op (pieces.map (·.expr))
          depth := 1 + (pieces.map (·.depth)).foldl max 0 } := by
  match pieces, several with
  | _ :: _ :: _, _ => rfl

/-- A largest number is no larger than what no number is larger than, by induction on them. -/
theorem foldl_max_le {bound start : Nat} {depths : List Nat} (first : start ≤ bound)
    (others : ∀ depth ∈ depths, depth ≤ bound)
    : depths.foldl max start ≤ bound := by
  induction depths generalizing start with
  | nil => exact first
  | cons depth depths ih =>
    obtain ⟨next, others⟩ := List.forall_mem_cons.mp others
    exact ih (Nat.max_le.mpr ⟨first, next⟩) others

namespace Expr

/-- A text before another one before some parts is one text before them. -/
theorem attach_literal_literal (s t : List Char) (rest : List Expr)
    : attach (literal s) (attach (literal t) rest) = attach (literal (s ++ t)) rest := by
  cases rest with
  | nil => rfl
  | cons e rest => cases e <;> simp [attach]

/-- The characters of a text one by one are the text, by induction on it. -/
theorem foldr_attach_literals {text : List Char} (nonempty : text ≠ []) (rest : List Expr)
    : (text.map fun c => literal [c]).foldr attach rest = attach (literal text) rest := by
  induction text with
  | nil => exact absurd rfl nonempty
  | cons c text ih =>
    cases text with
    | nil => rfl
    | cons next text =>
      rw [List.map_cons, List.foldr_cons, ih (List.cons_ne_nil next text), attach_literal_literal]
      rfl

/-- A sequence that begins with the characters of a text begins with the text. -/
theorem sequence_literals {text : List Char} (nonempty : text ≠ []) (es : List Expr)
    : sequence ((text.map fun c => literal [c]) ++ es) = sequence (literal text :: es) := by
  have parts : (text.map fun c => literal [c]).flatMap parts = text.map fun c => literal [c] := by
    rw [List.flatMap_map, List.map_eq_flatMap]
    rfl
  rw [sequence, sequence, List.flatMap_append, parts, List.foldr_append,
    foldr_attach_literals nonempty]
  rfl

end Expr

/-- A text whose reading comes to a piece that is not too deep is a pattern if the machine for it is
not too large.
-/
theorem ofText_of_readGroups {text : String} {piece : Piece}
    (read : readGroups (text.toList.length + 1) { flags := {} } [] 0 [] text.toList = .ok piece)
    (shallow : piece.depth ≤ maxDepth)
    : Pattern.ofText text
      = if piece.expr.isTooLarge then .error .tooLarge
        else .ok { text := text, expr := piece.expr } := by
  rw [Pattern.ofText, read]
  change (if _ > _ then _ else _) = _
  rw [if_neg (Nat.not_lt.mpr shallow)]

end Casebook.Pattern
