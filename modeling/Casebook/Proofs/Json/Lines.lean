import Mathlib.Data.List.Forall2
import Casebook.Proofs.Json.Forms

/-! Forms of values on lines of their own. The short form of a value has no line feed in it, and
forms that are printed one after the other are read as the values, in order.
-/

namespace Casebook.Json

/-- A text is a form of a value, whatever comes behind it that is no digit. -/
def IsForm (text : String) (value : Json) : Prop :=
  IsRead (readWithin maxDepth) text.toList value

variable {value : Json} {depth : Nat}

-----------------------------------------------------------------------------------------
-- The short form is one line
-----------------------------------------------------------------------------------------

theorem newline_not_mem_escapedChar (c : Char)
    : '\n' ∉ escapedChar c := by
  have digits : ∀ n < 0x20, '\n' ∉ Text.hexDigits n := by decide +kernel
  unfold escapedChar
  split_ifs with quoted backspace feed newline carriage tab low control
  · rcases quoted with rfl | rfl <;> simp
  · simp
  · simp
  · simp
  · simp
  · simp
  · simpa using digits c.toNat (Nat.lt_trans low (by decide))
  · simpa using digits c.toNat control
  · simpa using Ne.symm newline

theorem newline_not_mem_quoted (text : String)
    : '\n' ∉ quoted text := by
  simp [quoted, newline_not_mem_escapedChar]

theorem newline_not_mem_intercalate {α : Type} {items : List α} {form : α → List Char}
    (none : ∀ item ∈ items, '\n' ∉ form item)
    : '\n' ∉ [','].intercalate (items.map form) := by
  induction items with
  | nil => simp
  | cons first more ih =>
    simp only [List.mem_cons, forall_eq_or_imp] at none
    cases more with
    | nil => simpa using none.1
    | cons second more =>
      simp only [List.map_cons, List.intercalate_cons_cons] at ih ⊢
      simp [none.1, ih none.2]

/-- The short form of a value has no line feed in it, whatever its texts hold. -/
theorem Nests.newline_not_mem_compact (nests : Nests depth value)
    : '\n' ∉ value.compact := by
  induction nests with
  | null => decide
  | bool value => cases value <;> decide
  | number value =>
    have digits : (toString value).toList = Nat.toDigits 10 value := Nat.toList_repr
    rw [compact, digits]
    intro member
    cases Toml.isDigit_of_mem_toDigits _ member
  | string text => exact newline_not_mem_quoted text
  | array all ih =>
    rw [compact, compactItems_eq]
    simp [newline_not_mem_intercalate ih]
  | @object depth fields all ih =>
    have field (field : String × Json) (member : field ∈ fields)
        : '\n' ∉ quoted field.1 ++ ':' :: field.2.compact := by
      simp [newline_not_mem_quoted, ih field member]
    rw [compact, compactFields_eq]
    simp [newline_not_mem_intercalate field]

-----------------------------------------------------------------------------------------
-- Forms one after the other
-----------------------------------------------------------------------------------------

theorem Nests.isForm_render (nests : Nests maxDepth value)
    : IsForm value.render value := by
  rw [IsForm, render, String.toList_ofList]
  exact nests.isRead_compact

theorem Nests.isForm_renderPretty (nests : Nests maxDepth value)
    : IsForm value.renderPretty value := by
  rw [IsForm, renderPretty, String.toList_ofList]
  exact nests.isRead_prettyAt 0

theorem readAll_nil (fuel : Nat)
    : readAll (fuel + 1) [] = some [] :=
  rfl

/-- The first of the values of a text is read behind blanks, and the others from where it ends. -/
theorem readAll_form {text : String} (isForm : IsForm text value) {gap : List Char}
    (isGap : IsGap gap) (rest : List Char) (ends : rest.head?.all isBlank = true) (fuel : Nat)
    : readAll (fuel + 1) (gap ++ (text.toList ++ rest))
      = (readAll fuel rest).map (value :: ·) := by
  have noDigit : NoDigitNext rest := by
    cases rest with
    | nil => exact nofun
    | cons c more =>
      apply noDigitNext_cons
      simp only [List.head?_cons, Option.all_some] at ends
      exact noDigit_of_isBlank ends
  have left := (isForm.begins.append rest).skipBlanks isGap
  obtain ⟨c, more, same, -⟩ := isForm.begins.append rest
  rw [readAll, left, same]
  dsimp only
  rw [← same, isForm.reads rest noDigit]
  simp only [Option.bind_eq_bind, Option.bind_some, if_pos ends, Option.map_eq_bind]
  rfl

/-- A form of a value is read as the value. -/
theorem IsForm.ofText? {text : String} (isForm : IsForm text value)
    : Json.ofText? text = some value := by
  have read := readAll_form isForm isGap_nil [] rfl text.toList.length
  obtain ⟨c, more, same, -⟩ := isForm.begins
  rw [List.nil_append, List.append_nil] at read
  rw [same, List.length_cons, readAll_nil] at read
  rw [Json.ofText?, valuesOf?, same, List.length_cons, read]
  rfl

/-- A text that begins with a character which begins no value is the form of none. -/
theorem ofText?_eq_none {text : String} {c : Char} {more : List Char}
    (same : text.toList = c :: more) (noBlank : isBlank c = false) (noDigit : c.isDigit = false)
    (other : c ≠ '[' ∧ c ≠ '\x7b' ∧ c ≠ '"' ∧ c ≠ 'n' ∧ c ≠ 't' ∧ c ≠ 'f')
    : Json.ofText? text = none := by
  have unread : readWithin maxDepth (c :: more) = none := by
    simp [readWithin_other other, readNumber, noDigit]
  rw [Json.ofText?, valuesOf?, same, readAll, skipBlanks_cons noBlank]
  simp [unread]

end Casebook.Json
