import Mathlib.Data.Char
import Mathlib.Tactic.SplitIfs
import Casebook.Proofs.Json.Reading
import Casebook.Proofs.Toml.Numbers

/-! The two written forms of a value are read as the value. A form begins with a character that is
no blank and ends nothing, and is read wherever no digit comes behind it.
-/

namespace Casebook.Json

/-- The text begins with a character that a form begins with: no blank, and no bracket that ends a
value.
-/
def BeginsForm (text : List Char) : Prop :=
  ∃ c more, text = c :: more ∧ isBlank c = false ∧ c ≠ ']' ∧ c ≠ '\x7d'

/-- No digit comes next, with which a number could go on. -/
def NoDigitNext (rest : List Char) : Prop :=
  ∀ c more, rest = c :: more → c.isDigit = false

/-- What stands between two tokens. -/
def IsGap (gap : List Char) : Prop :=
  ∀ c ∈ gap, isBlank c = true

/-- A text is read as a thing, whatever comes behind it that is no digit. -/
structure IsRead {α : Type} (read : List Char → Option (α × List Char)) (text : List Char) (a : α)
    : Prop where
  begins : BeginsForm text
  reads : ∀ rest, NoDigitNext rest → read (text ++ rest) = some (a, rest)

theorem BeginsForm.append {text : List Char} (begins : BeginsForm text) (rest : List Char)
    : BeginsForm (text ++ rest) := by
  obtain ⟨c, more, rfl, starts⟩ := begins
  exact ⟨c, more ++ rest, rfl, starts⟩

theorem isGap_nil
    : IsGap [] := by
  simp [IsGap]

theorem noDigitNext_cons {c : Char} (noDigit : c.isDigit = false) (rest : List Char)
    : NoDigitNext (c :: rest) := by
  intro d more same
  obtain ⟨rfl, -⟩ := List.cons.inj same
  exact noDigit

theorem noDigit_of_isBlank {c : Char} (blank : isBlank c = true)
    : c.isDigit = false := by
  simp only [isBlank, Bool.or_eq_true, decide_eq_true_eq] at blank
  rcases blank with ((rfl | rfl) | rfl) | rfl <;> rfl

theorem noDigitNext_gap {gap : List Char} (isGap : IsGap gap) {c : Char}
    (noDigit : c.isDigit = false) (rest : List Char)
    : NoDigitNext (gap ++ c :: rest) := by
  cases gap with
  | nil => exact noDigitNext_cons noDigit rest
  | cons d more =>
    apply noDigitNext_cons
    exact noDigit_of_isBlank (isGap d List.mem_cons_self)

theorem skipBlanks_cons {c : Char} (noBlank : isBlank c = false) (text : List Char)
    : skipBlanks (c :: text) = c :: text :=
  List.dropWhile_cons_of_neg (by simp [noBlank])

theorem skipBlanks_append {gap : List Char} (isGap : IsGap gap) (text : List Char)
    : skipBlanks (gap ++ text) = skipBlanks text := by
  induction gap with
  | nil => rfl
  | cons c more ih =>
    simp only [IsGap, List.mem_cons, forall_eq_or_imp] at isGap
    rw [List.cons_append, skipBlanks, List.dropWhile_cons_of_pos isGap.1]
    exact ih isGap.2

/-- What is left behind a gap is the form that follows. -/
theorem BeginsForm.skipBlanks {text gap : List Char} (begins : BeginsForm text)
    (isGap : IsGap gap)
    : Json.skipBlanks (gap ++ text) = text := by
  obtain ⟨c, more, rfl, noBlank, -⟩ := begins
  rw [skipBlanks_append isGap, skipBlanks_cons noBlank]

-----------------------------------------------------------------------------------------
-- Strings and numbers
-----------------------------------------------------------------------------------------

/-- A control is written as four digits of its number if it has no letter. -/
theorem exists_hexDigits {c : Char} {zeros : List Char} (control : c.toNat < 0x20)
    (filled : zeros = if c.toNat < 0x10 then ['0', '0', '0'] else ['0', '0'])
    : ∃ d₁ d₂ d₃ d₄,
        zeros ++ Text.hexDigits c.toNat = [d₁, d₂, d₃, d₄]
        ∧ Toml.ofHexDigits? [d₁, d₂, d₃, d₄] = some c := by
  have written
      : ∀ n < 0x20,
          ((if n < 0x10 then ['0', '0', '0'] else ['0', '0']) ++ Text.hexDigits n).length = 4
          ∧ Toml.ofHexDigits?
              ((if n < 0x10 then ['0', '0', '0'] else ['0', '0']) ++ Text.hexDigits n)
            = some (Char.ofNat n) := by
    decide +kernel
  obtain ⟨length, reads⟩ := written c.toNat control
  rw [Char.ofNat_toNat, ← filled] at reads
  rw [← filled] at length
  match digits : zeros ++ Text.hexDigits c.toNat with
  | [d₁, d₂, d₃, d₄] => exact ⟨d₁, d₂, d₃, d₄, rfl, digits ▸ reads⟩
  | [] | [_] | [_, _] | [_, _, _] | _ :: _ :: _ :: _ :: _ :: _ => simp [digits] at length

/-- A character is read from its form in a string. -/
theorem readString_escapedChar (c : Char) (rest : List Char)
    : readString (escapedChar c ++ rest) = (readString rest).map (Prod.map (c :: ·) id) := by
  have byNumber (zeros : List Char) (control : c.toNat < 0x20)
      (filled : zeros = if c.toNat < 0x10 then ['0', '0', '0'] else ['0', '0'])
      : readString (['\\', 'u'] ++ zeros ++ Text.hexDigits c.toNat ++ rest)
        = (readString rest).map (Prod.map (c :: ·) id) := by
    obtain ⟨d₁, d₂, d₃, d₄, digits, reads⟩ := exists_hexDigits control filled
    rw [List.append_assoc ['\\', 'u'], digits]
    simp [readString, reads]
  unfold escapedChar
  split_ifs with quoted backspace feed newline carriage tab low control
  · rcases quoted with rfl | rfl <;> simp [readString, escapedBy?]
  · subst backspace; simp [readString, escapedBy?]
  · subst feed; simp [readString, escapedBy?]
  · subst newline; simp [readString, escapedBy?]
  · subst carriage; simp [readString, escapedBy?]
  · subst tab; simp [readString, escapedBy?]
  · exact byNumber ['0', '0', '0'] (Nat.lt_trans low (by decide)) (by rw [if_pos low])
  · exact byNumber ['0', '0'] control (by rw [if_neg low])
  · rw [List.singleton_append, readString, if_neg control]
    all_goals simp_all

/-- A text is read from its form between quotes, by induction on the text. -/
theorem readString_quoted (text rest : List Char)
    : readString (text.flatMap escapedChar ++ '"' :: rest) = some (text, rest) := by
  induction text with
  | nil => rfl
  | cons c more ih => simp [readString_escapedChar, ih]

/-- A number is read from its digits. -/
theorem readNumber_toDigits (n : Nat) {rest : List Char} (noDigit : NoDigitNext rest)
    : readNumber (Nat.toDigits 10 n ++ rest) = some (n, rest) := by
  have digits : (Nat.toDigits 10 n ++ rest).takeWhile Char.isDigit = Nat.toDigits 10 n := by
    rw [List.takeWhile_append_of_pos Toml.isDigit_of_mem_toDigits]
    cases rest with
    | nil => simp
    | cons c more => simp [noDigit c more rfl]
  have admitted
      : ¬ ((Nat.toDigits 10 n).isEmpty
          || (Nat.toDigits 10 n).head? = some '0' && Nat.toDigits 10 n ≠ ['0']) = true := by
    cases front : Nat.toDigits 10 n with
    | nil => exact absurd front Nat.toDigits_ne_nil
    | cons c more =>
      simp only [List.isEmpty_cons, List.head?_cons, Option.some.injEq, Bool.false_or,
        Bool.and_eq_true, decide_eq_true_eq, not_and, not_not]
      rintro rfl
      rw [Toml.tail_toDigits front]
  rw [readNumber, digits, if_neg admitted, Nat.ofDigitChars_ten_toDigits, List.drop_left]

-----------------------------------------------------------------------------------------
-- Arrays and objects
-----------------------------------------------------------------------------------------

section
variable {α : Type} {read : List Char → Option (α × List Char)} {form : α → List Char}
  {items : List α} {gap last : List Char} {close : Char}

/-- Forms with commas between them begin as the first of them does. -/
theorem BeginsForm.intercalate (begins : ∀ item ∈ items, BeginsForm (form item))
    (some : items ≠ []) (separator : List Char)
    : BeginsForm (separator.intercalate (items.map form)) := by
  match items with
  | [] => exact absurd rfl some
  | [item] => simpa using begins
  | first :: second :: more =>
    simp only [List.map_cons, List.intercalate_cons_cons, List.append_assoc]
    exact (begins first List.mem_cons_self).append _

theorem length_le_intercalate (begins : ∀ item ∈ items, BeginsForm (form item))
    (separator : List Char)
    : items.length ≤ (separator.intercalate (items.map form)).length := by
  induction items with
  | nil => simp
  | cons first more ih =>
    simp only [List.mem_cons, forall_eq_or_imp] at begins
    have ih := ih begins.2
    obtain ⟨c, behind, same, -⟩ := begins.1
    have nonempty : 0 < (form first).length := by simp [same]
    cases more with
    | nil =>
      simp only [List.map_cons, List.map_nil, List.intercalate_singleton, List.length_singleton]
      omega
    | cons second more =>
      simp only [List.map_cons, List.intercalate_cons_cons, List.length_append,
        List.length_cons] at ih ⊢
      omega

/-- Things are read from their forms with commas between them, up to the character that ends them.
By induction on the things.
-/
theorem readSeparated_intercalate (isRead : ∀ item ∈ items, IsRead read (form item) item)
    (some : items ≠ []) (isGap : IsGap gap) (isLast : IsGap last)
    (closes : isBlank close = false ∧ close.isDigit = false ∧ close ≠ ',') {fuel : Nat}
    (enough : items.length ≤ fuel) (rest : List Char)
    : readSeparated read close fuel
          ((',' :: gap).intercalate (items.map form) ++ (last ++ close :: rest))
      = .some (items, rest) := by
  obtain ⟨noBlank, noDigit, noComma⟩ := closes
  induction items generalizing fuel with
  | nil => exact absurd rfl some
  | cons first more ih =>
    obtain ⟨fuel, rfl⟩ := Nat.exists_eq_succ_of_ne_zero (Nat.ne_zero_of_lt enough)
    simp only [List.mem_cons, forall_eq_or_imp] at isRead
    cases more with
    | nil =>
      have reads := isRead.1.reads _ (noDigitNext_gap isLast noDigit rest)
      simp [readSeparated, reads, skipBlanks_append isLast, skipBlanks_cons noBlank]
    | cons second more =>
      have ih := ih isRead.2 (List.cons_ne_nil _ _) (Nat.le_of_succ_le_succ enough)
      have begins :=
        (BeginsForm.intercalate (fun item member => (isRead.2 item member).begins)
          (List.cons_ne_nil _ _) (',' :: gap)).append (last ++ close :: rest)
      have same
          : (',' :: gap).intercalate ((first :: second :: more).map form)
              ++ (last ++ close :: rest)
            = form first ++ ',' :: (gap ++ ((',' :: gap).intercalate ((second :: more).map form)
              ++ (last ++ close :: rest))) := by
        simp [List.intercalate_cons_cons]
      rw [same]
      generalize (',' :: gap).intercalate ((second :: more).map form) ++ (last ++ close :: rest)
        = behind at begins ih
      have reads := isRead.1.reads (',' :: (gap ++ behind)) (noDigitNext_cons (by decide) _)
      have comma : skipBlanks (',' :: (gap ++ behind)) = ',' :: (gap ++ behind) :=
        skipBlanks_cons (by decide) _
      simp [readSeparated, reads, comma, Ne.symm noComma, begins.skipBlanks isGap, ih]

end

/-- A field is read from its key, a colon and the form of its value. -/
theorem IsRead.field {readValue : List Char → Option (Json × List Char)} {value : Json}
    {text gap : List Char} (isRead : IsRead readValue text value) (isGap : IsGap gap)
    (key : String)
    : IsRead (readField readValue) (quoted key ++ ':' :: (gap ++ text)) (key, value) where
  begins := ⟨'"', _, rfl, by decide⟩
  reads rest noDigit := by
    have colon (text : List Char) : Json.skipBlanks (':' :: text) = ':' :: text :=
      skipBlanks_cons (by decide) text
    have begins := isRead.begins.append rest
    simp [quoted, readField, readString_quoted, colon, begins.skipBlanks isGap,
      isRead.reads rest noDigit]

section
variable {depth : Nat} {gap gap' last : List Char}

/-- What stands between the brackets of a value, with the closing bracket, is read as the things
that it holds.
-/
theorem readSeparated_inside {α : Type} {read : List Char → Option (α × List Char)}
    {form : α → List Char} {items : List α}
    (isRead : ∀ item ∈ items, IsRead read (form item) item) (some : items ≠ [])
    (isGap : IsGap gap) (isGap' : IsGap gap') (isLast : IsGap last) (close : Char)
    (closes : isBlank close = false ∧ close.isDigit = false ∧ close ≠ ',') (rest : List Char)
    : ∃ c more,
        skipBlanks
            (gap ++ ((',' :: gap').intercalate (items.map form) ++ (last ++ close :: rest)))
          = c :: more
        ∧ c ≠ ']'
        ∧ c ≠ '\x7d'
        ∧ readSeparated read close (more.length + 1) (c :: more) = .some (items, rest) := by
  have begins := fun item member => (isRead item member).begins
  have all := (BeginsForm.intercalate begins some (',' :: gap')).append (last ++ close :: rest)
  rw [all.skipBlanks isGap]
  have enough
      : items.length
        ≤ ((',' :: gap').intercalate (items.map form) ++ (last ++ close :: rest)).length := by
    rw [List.length_append]
    exact Nat.le_add_right_of_le (length_le_intercalate begins (',' :: gap'))
  have read := readSeparated_intercalate isRead some isGap' isLast closes enough rest
  obtain ⟨c, more, same, -, noBracket, noBrace⟩ := all
  rw [same, List.length_cons] at read
  exact ⟨c, more, same, noBracket, noBrace, read⟩

/-- An array is read from the forms of its items. -/
theorem IsRead.array {items : List Json} {form : Json → List Char}
    (isRead : ∀ item ∈ items, IsRead (readWithin depth) (form item) item) (some : items ≠ [])
    (isGap : IsGap gap) (isGap' : IsGap gap') (isLast : IsGap last)
    : IsRead (readWithin (depth + 1))
        ('[' :: (gap ++ ((',' :: gap').intercalate (items.map form) ++ (last ++ [']']))))
        (.array items) where
  begins := ⟨'[', _, rfl, by decide⟩
  reads rest noDigit := by
    obtain ⟨c, more, skipped, noBracket, -, read⟩ :=
      readSeparated_inside isRead some isGap isGap' isLast ']' (by decide) rest
    simp only [List.cons_append, List.append_assoc, List.nil_append]
    rw [readWithin, skipped]
    simp [noBracket, read]

/-- An object is read from the forms of its fields. -/
theorem IsRead.object {fields : List (String × Json)} {form : String × Json → List Char}
    (isRead : ∀ field ∈ fields, IsRead (readField (readWithin depth)) (form field) field)
    (some : fields ≠ []) (isGap : IsGap gap) (isGap' : IsGap gap') (isLast : IsGap last)
    : IsRead (readWithin (depth + 1))
        ('\x7b' :: (gap ++ ((',' :: gap').intercalate (fields.map form) ++ (last ++ ['\x7d']))))
        (.object fields) where
  begins := ⟨'\x7b', _, rfl, by decide⟩
  reads rest noDigit := by
    obtain ⟨c, more, skipped, -, noBrace, read⟩ :=
      readSeparated_inside isRead some isGap isGap' isLast '\x7d' (by decide) rest
    simp only [List.cons_append, List.append_assoc, List.nil_append]
    rw [readWithin, skipped]
    simp [noBrace, read]

end

-----------------------------------------------------------------------------------------
-- Both forms
-----------------------------------------------------------------------------------------

/-- The arrays and objects of a value are nested at most so deep. -/
inductive Nests : Nat → Json → Prop
  | null {depth} : Nests depth .null
  | bool {depth} (value : Bool) : Nests depth (.bool value)
  | number {depth} (value : Nat) : Nests depth (.number value)
  | string {depth} (text : String) : Nests depth (.string text)
  | array {depth items} (all : ∀ item ∈ items, Nests depth item) : Nests (depth + 1) (.array items)
  | object {depth fields} (all : ∀ field ∈ fields, Nests depth field.2)
    : Nests (depth + 1) (.object fields)

attribute [simp] Nests.null Nests.bool Nests.number Nests.string

@[simp]
theorem nests_array_iff {depth : Nat} {items : List Json}
    : Nests (depth + 1) (.array items) ↔ ∀ item ∈ items, Nests depth item := by
  constructor
  · rintro (_ | _ | _ | _ | all)
    exact all
  · exact .array

@[simp]
theorem nests_object_iff {depth : Nat} {fields : List (String × Json)}
    : Nests (depth + 1) (.object fields) ↔ ∀ field ∈ fields, Nests depth field.2 := by
  constructor
  · rintro (_ | _ | _ | _ | _ | all)
    exact all
  · exact .object

/-- What puts a separator between any two forms is `List.intercalate` of the forms. -/
theorem eq_intercalate {α : Type} {join : List α → List Char} {form : α → List Char}
    {separator : List Char} (nil : join [] = []) (one : ∀ item, join [item] = form item)
    (more
      : ∀ first second items,
          join (first :: second :: items)
            = form first ++ (separator ++ join (second :: items)))
    (items : List α)
    : join items = separator.intercalate (items.map form) := by
  induction items with
  | nil => simp [nil]
  | cons first items ih =>
    cases items with
    | nil => simp [one]
    | cons second items =>
      rw [more, ih]
      simp [List.intercalate_cons_cons]

theorem compactItems_eq (items : List Json)
    : compactItems items = [','].intercalate (items.map compact) := by
  apply eq_intercalate
  all_goals simp [compactItems]

theorem compactFields_eq (fields : List (String × Json))
    : compactFields fields
      = [','].intercalate (fields.map fun field => quoted field.1 ++ ':' :: field.2.compact) := by
  apply eq_intercalate
  all_goals simp [compactFields]

theorem prettyItems_eq (depth : Nat) (items : List Json)
    : prettyItems depth items
      = (',' :: newLine depth).intercalate (items.map (prettyAt depth)) := by
  apply eq_intercalate
  all_goals simp [prettyItems]

theorem prettyFields_eq (depth : Nat) (fields : List (String × Json))
    : prettyFields depth fields
      = (',' :: newLine depth).intercalate
          (fields.map fun field => quoted field.1 ++ ':' :: ' ' :: field.2.prettyAt depth) := by
  apply eq_intercalate
  all_goals simp [prettyFields]

theorem isGap_newLine (depth : Nat)
    : IsGap (newLine depth) := by
  intro c member
  rcases List.mem_cons.mp member with rfl | indent
  · rfl
  · rw [List.eq_of_mem_replicate indent]
    rfl

section
variable {depth : Nat} {value : Json}

theorem IsRead.string (text : String)
    : IsRead (readWithin depth) (quoted text) (.string text) where
  begins := ⟨'"', _, rfl, by decide⟩
  reads rest _ := by cases depth <;> simp [quoted, readWithin, readString_quoted]

/-- What begins with no other form is read as a number. -/
theorem readWithin_other {c : Char}
    (other : c ≠ '[' ∧ c ≠ '\x7b' ∧ c ≠ '"' ∧ c ≠ 'n' ∧ c ≠ 't' ∧ c ≠ 'f') (text : List Char)
    : readWithin depth (c :: text)
      = (readNumber (c :: text)).map fun (n, rest) => (.number n, rest) := by
  rw [readWithin]
  all_goals simp [other]

theorem IsRead.number (n : Nat)
    : IsRead (readWithin depth) (toString n).toList (.number n) := by
  have digits : (toString n).toList = Nat.toDigits 10 n := Nat.toList_repr
  obtain ⟨c, more, same, digit⟩ := Toml.exists_firstDigit n
  have other
      : (c ≠ '[' ∧ c ≠ '\x7b' ∧ c ≠ '"' ∧ c ≠ 'n' ∧ c ≠ 't' ∧ c ≠ 'f')
        ∧ c ≠ ']' ∧ c ≠ '\x7d' ∧ c ≠ ' ' ∧ c ≠ '\t' ∧ c ≠ '\n' ∧ c ≠ '\r' := by
    refine ⟨⟨?_, ?_, ?_, ?_, ?_, ?_⟩, ?_, ?_, ?_, ?_, ?_, ?_⟩
    all_goals exact Toml.digit_ne digit (by decide)
  constructor
  case begins =>
    rw [digits, same]
    exact ⟨c, more, rfl, by simp [isBlank, other.2], by simp [other.2]⟩
  case reads =>
    intro rest noDigit
    have read := readNumber_toDigits n noDigit
    rw [digits]
    rw [same, List.cons_append] at read ⊢
    rw [readWithin_other other.1, read]
    rfl

theorem IsRead.null
    : IsRead (readWithin depth) "null".toList .null where
  begins := ⟨'n', _, rfl, by decide⟩
  reads rest _ := by cases depth <;> rfl

theorem IsRead.bool (flag : Bool)
    : IsRead (readWithin depth) (if flag then "true" else "false").toList (.bool flag) := by
  cases flag with
  | true => exact ⟨⟨'t', _, rfl, by decide⟩, fun rest _ => by cases depth <;> rfl⟩
  | false => exact ⟨⟨'f', _, rfl, by decide⟩, fun rest _ => by cases depth <;> rfl⟩

/-- A value is read from its form on one line. -/
theorem Nests.isRead_compact (nests : Nests depth value)
    : IsRead (readWithin depth) value.compact value := by
  induction nests with
  | null => exact .null
  | bool value => exact .bool value
  | number value => exact .number value
  | string text => exact .string text
  | @array depth items all ih =>
    cases items with
    | nil => exact ⟨⟨'[', _, rfl, by decide⟩, fun rest _ => rfl⟩
    | cons first more =>
      rw [compact, compactItems_eq]
      exact .array ih (List.cons_ne_nil _ _) isGap_nil isGap_nil isGap_nil
  | @object depth fields all ih =>
    cases fields with
    | nil => exact ⟨⟨'\x7b', _, rfl, by decide⟩, fun rest _ => rfl⟩
    | cons first more =>
      have read := fun field member => (ih field member).field isGap_nil field.1
      rw [compact, compactFields_eq]
      exact .object read (List.cons_ne_nil _ _) isGap_nil isGap_nil isGap_nil

/-- A value is read from its form over several lines, wherever that is indented. -/
theorem Nests.isRead_prettyAt (nests : Nests depth value) (indent : Nat)
    : IsRead (readWithin depth) (value.prettyAt indent) value := by
  induction nests generalizing indent with
  | null => exact .null
  | bool value => exact .bool value
  | number value => exact .number value
  | string text => exact .string text
  | @array depth items all ih =>
    cases items with
    | nil => exact ⟨⟨'[', _, rfl, by decide⟩, fun rest _ => rfl⟩
    | cons first more =>
      have read := IsRead.array (fun item member => ih item member (indent + 1))
        (List.cons_ne_nil _ _) (isGap_newLine (indent + 1)) (isGap_newLine (indent + 1))
        (isGap_newLine indent)
      rw [prettyAt, prettyItems_eq]
      · simpa using read
      · nofun
  | @object depth fields all ih =>
    cases fields with
    | nil => exact ⟨⟨'\x7b', _, rfl, by decide⟩, fun rest _ => rfl⟩
    | cons first more =>
      have space : IsGap [' '] := by simp [IsGap, isBlank]
      have read := IsRead.object
        (fun field member => (ih field member (indent + 1)).field space field.1)
        (List.cons_ne_nil _ _) (isGap_newLine (indent + 1)) (isGap_newLine (indent + 1))
        (isGap_newLine indent)
      rw [prettyAt, prettyFields_eq]
      · simpa using read
      · nofun

end

end Casebook.Json
