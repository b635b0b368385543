import Casebook.Proofs.Toml.Numbers
import Casebook.Proofs.Toml.Strings
import Casebook.Toml.Reading

/-! Values that are written and read again: strings, truth values, numbers that are not negative,
and arrays of such values, nested no deeper than they may be.
-/

namespace Casebook.Toml

/-- A value that can be read again where arrays are nested at most so deep. -/
inductive Storable : Nat → Value → Prop
  | string {depth} (text : String) : Storable depth (.string text)
  | boolean {depth} (flag : Bool) : Storable depth (.boolean flag)
  | count {depth} {n : Nat} (fits : isInteger n = true) : Storable depth (.integer n)
  | array {depth items} (all : ∀ item ∈ items, Storable depth item)
    : Storable (depth + 1) (.array items)

/-- A character that a value begins with, which is none of those between tokens and no bracket that
ends an array.
-/
def StartsValue (c : Char) : Prop :=
  isSpace c = false ∧ c ≠ '\n' ∧ c ≠ '\r' ∧ c ≠ '#' ∧ c ≠ ']'

instance (c : Char) : Decidable (StartsValue c) :=
  inferInstanceAs (Decidable (_ ∧ _))

theorem skipGaps_of_starts {c : Char} (starts : StartsValue c) (rest : List Char)
    : skipGaps false (c :: rest) = c :: rest := by
  obtain ⟨noSpace, noFeed, noReturn, noComment, -⟩ := starts
  rw [skipGaps]
  · simp [noSpace, noComment]
  · exact noFeed
  · rintro _ rfl; exact absurd rfl noReturn

theorem skipSpaces_of_starts {c : Char} (starts : StartsValue c) (rest : List Char)
    : skipSpaces (c :: rest) = c :: rest :=
  List.dropWhile_cons_of_neg (by simp [starts.1])

theorem exists_quote (text : List Char)
    : ∃ c more, quote text = c :: more ∧ (c = '"' ∨ c = '\'') := by
  unfold quote
  cases Form.ofText text <;> simp [Form.quotes]

theorem render_count (n : Nat)
    : (Value.integer n).render = Nat.toDigits 10 n := by
  rw [Value.render]
  exact Nat.toList_repr

theorem startsValue_of_isDigit {c : Char} (digit : c.isDigit = true)
    : StartsValue c := by
  refine ⟨?_, digit_ne digit (by decide), digit_ne digit (by decide), digit_ne digit (by decide),
    digit_ne digit (by decide)⟩
  simp [isSpace, digit_ne digit (show ' '.isDigit = false by decide),
    digit_ne digit (show '\t'.isDigit = false by decide)]

theorem Storable.starts {depth : Nat} {v : Value} (storable : Storable depth v)
    : ∃ c more, v.render = c :: more ∧ StartsValue c := by
  cases storable with
  | string text =>
    obtain ⟨c, more, same, rfl | rfl⟩ := exists_quote text.toList
    · exact ⟨_, more, by rw [Value.render, same], by decide⟩
    · exact ⟨_, more, by rw [Value.render, same], by decide⟩
  | boolean flag =>
    cases flag
    · exact ⟨'f', _, rfl, by decide⟩
    · exact ⟨'t', _, rfl, by decide⟩
  | @count _ n =>
    obtain ⟨c, more, digits, digit⟩ := exists_firstDigit n
    exact ⟨c, more, (render_count n).trans digits, startsValue_of_isDigit digit⟩
  | @array _ items all =>
    match items with
    | [] => exact ⟨'[', _, rfl, by decide⟩
    | [item] => exact ⟨'[', _, rfl, by decide⟩
    | _ :: _ :: _ => exact ⟨'[', _, rfl, by decide⟩

-----------------------------------------------------------------------------------------
-- Items
-----------------------------------------------------------------------------------------

variable {read : List Char → Except Fault (Value × List Char)}

/-- Items on lines of their own are read up to the bracket behind them, if each one can be. -/
theorem readItems_renderItems {items : List Value}
    (reads
      : ∀ item ∈ items, ∀ rest, EndsValue rest → read (item.render ++ rest) = .ok (item, rest))
    (starts : ∀ item ∈ items, ∃ c more, item.render = c :: more ∧ StartsValue c) {fuel : Nat}
    (fuelled : items.length < fuel) (rest : List Char)
    : readItems read fuel ('\n' :: (renderItems items ++ ']' :: rest)) = .ok (items, rest) := by
  induction items generalizing fuel with
  | nil =>
    obtain ⟨fuel, rfl⟩ := Nat.exists_eq_succ_of_ne_zero (Nat.ne_zero_of_lt fuelled)
    rfl
  | cons item more ih =>
    obtain ⟨fuel, rfl⟩ := Nat.exists_eq_succ_of_ne_zero (Nat.ne_zero_of_lt fuelled)
    simp only [List.mem_cons, forall_eq_or_imp] at reads starts
    obtain ⟨⟨c, tail, begins, isStart⟩, starts⟩ := starts
    rw [List.length_cons] at fuelled
    have ih := ih reads.2 starts (Nat.lt_of_succ_lt_succ fuelled)
    have read := reads.1 (',' :: '\n' :: (renderItems more ++ ']' :: rest))
      ⟨',', _, rfl, .inr (.inl rfl)⟩
    have gaps
        : skipGaps false ('\n' :: (renderItems (item :: more) ++ ']' :: rest))
          = item.render ++ ',' :: '\n' :: (renderItems more ++ ']' :: rest) := by
      have indent (text : List Char)
          : skipGaps false ('\n' :: ("    ".toList ++ text)) = skipGaps false text := by
        simp [skipGaps, isSpace]
      rw [renderItems, List.append_assoc, List.append_assoc, indent, begins, List.cons_append,
        skipGaps_of_starts isStart]
      rfl
    have comma (text : List Char) : skipGaps false (',' :: text) = ',' :: text :=
      skipGaps_of_starts (by decide) text
    rw [begins, List.cons_append] at read gaps
    rw [readItems, gaps]
    split
    next same => exact absurd (List.cons.inj same).1 isStart.2.2.2.2
    next => simp [read, comma, ih, bind, Except.bind]

theorem length_le_renderItems (items : List Value)
    : items.length ≤ (renderItems items).length := by
  induction items with
  | nil => exact Nat.zero_le _
  | cons item more ih =>
    rw [renderItems]
    simp only [List.length_cons, List.length_append]
    omega

/-- A value is read from its form, if that is followed by what ends a value. -/
theorem Storable.reads {depth : Nat} {v : Value} (storable : Storable depth v) {rest : List Char}
    (ends : EndsValue rest)
    : readValueWithin depth (v.render ++ rest) = .ok (v, rest) := by
  induction storable generalizing rest with
  | @string depth text =>
    have double : rest.head? ≠ some '"' := by
      obtain ⟨c, more, rfl, rfl | rfl | rfl⟩ := ends <;> simp
    have single : rest.head? ≠ some '\'' := by
      obtain ⟨c, more, rfl, rfl | rfl | rfl⟩ := ends <;> simp
    have read := readText_quote text.toList double single
    obtain ⟨c, more, begins, isQuote⟩ := exists_quote text.toList
    rw [Value.render]
    rw [begins, List.cons_append] at read ⊢
    rcases isQuote with rfl | rfl
    · cases depth <;> simp [readValueWithin, read, bind, Except.bind]
    · cases depth <;> simp [readValueWithin, read, bind, Except.bind]
  | @boolean depth flag => cases flag <;> cases depth <;> rfl
  | @count depth n fits =>
    have read := readNumber_append fits ends
    obtain ⟨c, more, digits, digit⟩ := exists_firstDigit n
    rw [render_count]
    rw [digits, List.cons_append] at read ⊢
    have other
        : c ≠ '[' ∧ c ≠ '\x7b' ∧ c ≠ '"' ∧ c ≠ '\'' ∧ c ≠ 't' ∧ c ≠ 'f' := by
      refine ⟨?_, ?_, ?_, ?_, ?_, ?_⟩ <;> exact digit_ne digit (by decide)
    rw [readValueWithin, read]
    all_goals simp [other]
  | @array depth items all ih =>
    match items with
    | [] => rfl
    | [item] =>
      simp only [List.mem_singleton, forall_eq] at all ih
      have read := ih ⟨']', rest, rfl, .inr (.inr rfl)⟩
      have bracket : skipGaps false (']' :: rest) = ']' :: rest := by
        simp [skipGaps, isSpace]
      obtain ⟨c, more, begins, isStart⟩ := all.starts
      rw [Value.render, List.cons_append, List.cons_append, List.append_assoc,
        List.singleton_append, readValueWithin]
      rw [begins, List.cons_append] at read ⊢
      have items
          : readItems (readValueWithin depth) ((c :: (more ++ ']' :: rest)).length + 1)
              (c :: (more ++ ']' :: rest))
            = .ok ([item], rest) := by
        rw [readItems, skipGaps_of_starts isStart]
        split
        next same => exact absurd (List.cons.inj same).1 isStart.2.2.2.2
        next => simp [read, bracket, bind, Except.bind]
      rw [items]
      rfl
    | first :: second :: last =>
      have read (fuel : Nat) (fuelled : (first :: second :: last).length < fuel) :=
        readItems_renderItems (fun item member _ => ih item member)
          (fun item member => (all item member).starts) fuelled rest
      have length := length_le_renderItems (first :: second :: last)
      rw [Value.render, List.cons_append, List.cons_append, List.cons_append, List.cons_append,
        List.append_assoc, List.singleton_append, readValueWithin, read]
      · rfl
      · simp only [List.length_cons, List.length_append] at length ⊢
        omega
      · simp
      · simp

end Casebook.Toml
