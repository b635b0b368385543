import Mathlib.Data.Char
import Mathlib.Tactic.SplitIfs
import Casebook.Toml.Render
import Casebook.Toml.Text

/-! Strings that are written and read again. Each form gives back the text that it was chosen for,
wherever no quote comes right behind it.
-/

namespace Casebook.Toml

@[simp]
theorem Read.cons_ok (c : Char) (text rest : List Char)
    : Read.cons c (.ok (text, rest)) = .ok (c :: text, rest) :=
  rfl

@[simp]
theorem Read.consEscaped_some (c : Char) (read : Read)
    : Read.consEscaped (some c) read = read.cons c :=
  rfl

-----------------------------------------------------------------------------------------
-- Single characters
-----------------------------------------------------------------------------------------

theorem lt_of_not_isPlain {c : Char} (control : isPlain c = false)
    : c.toNat < 128 := by
  simp only [isPlain, Bool.or_eq_false_iff, Bool.and_eq_false_iff, decide_eq_false_iff_not,
    ne_eq, not_not] at control
  omega

/-- A character that has to be escaped is the one whose number its four digits write. -/
theorem exists_hexDigits {c : Char} (control : isPlain c = false)
    : ∃ d₁ d₂ d₃ d₄,
        fourHexDigits c = [d₁, d₂, d₃, d₄] ∧ ofHexDigits? [d₁, d₂, d₃, d₄] = some c := by
  have written
      : ∀ n < 128,
          (fourHexDigits (Char.ofNat n)).length = 4
          ∧ ofHexDigits? (fourHexDigits (Char.ofNat n)) = some (Char.ofNat n) := by
    decide +kernel
  obtain ⟨length, reads⟩ := written c.toNat (lt_of_not_isPlain control)
  rw [Char.ofNat_toNat] at length reads
  match digits : fourHexDigits c with
  | [d₁, d₂, d₃, d₄] => exact ⟨d₁, d₂, d₃, d₄, rfl, digits ▸ reads⟩
  | [] | [_] | [_, _] | [_, _, _] | _ :: _ :: _ :: _ :: _ :: _ => simp [digits] at length

theorem readBasic_plain {c : Char} (plain : isPlain c = true) (noQuote : c ≠ '"')
    (noEscape : c ≠ '\\') (rest : List Char)
    : readBasic (c :: rest) = (readBasic rest).cons c := by
  rw [readBasic]
  · rw [if_pos plain]
  all_goals simp_all

/-- A character that is no quote is read from its form between double quotes. -/
theorem readBasic_escapeChar {c : Char} (noQuote : c ≠ '"') (rest : List Char)
    : readBasic (escapeChar false c ++ rest) = (readBasic rest).cons c := by
  unfold escapeChar
  split_ifs with h₁ h₂ h₃ h₄ h₅ h₆ h₇ h₈
  · subst c; simp [readBasic, escapedBy?]
  · subst c; simp [readBasic, escapedBy?]
  · cases h₄
  · subst c; simp [readBasic, escapedBy?]
  · subst c; simp [readBasic, escapedBy?]
  · subst c; simp [readBasic, escapedBy?]
  · subst c; simp [readBasic, escapedBy?]
  · exact readBasic_plain h₈ noQuote h₇ rest
  · obtain ⟨d₁, d₂, d₃, d₄, digits, reads⟩ := exists_hexDigits (Bool.eq_false_iff.mpr ‹_›)
    simp [digits, readBasic, reads]

theorem readBasic_escape (text rest : List Char)
    : readBasic (escape false 0 text ++ '"' :: rest) = .ok (text, rest) := by
  induction text with
  | nil => simp [escape, readBasic]
  | cons c more ih =>
    by_cases quote : c = '"'
    · subst quote
      simp [escape, readBasic, escapedBy?, ih]
    · simp [escape, quote, List.append_assoc, readBasic_escapeChar quote, ih]

theorem readLiteral_append {text : List Char} (plain : ∀ c ∈ text, isPlain c = true)
    (noQuote : '\'' ∉ text) (rest : List Char)
    : readLiteral (text ++ '\'' :: rest) = .ok (text, rest) := by
  induction text with
  | nil => simp [readLiteral]
  | cons c more ih =>
    simp only [List.mem_cons, forall_eq_or_imp, not_or] at plain noQuote
    rw [List.cons_append, readLiteral, if_pos plain.1, ih plain.2 noQuote.2, Read.cons_ok]
    exact fun same => noQuote.1 same.symm

-----------------------------------------------------------------------------------------
-- Several lines between single quotes
-----------------------------------------------------------------------------------------

theorem readLiteralLines_cons {c : Char} {rest : List Char} (admitted : isPlain c = true ∨ c = '\n')
    (open_ : ¬ ['\'', '\'', '\''] <+: c :: rest)
    : readLiteralLines (c :: rest) = (readLiteralLines rest).cons c := by
  rcases admitted with plain | rfl
  · rw [readLiteralLines, if_pos plain]
    · rintro _ rfl rfl; exact open_ ⟨_, rfl⟩
    · rintro _ rfl rfl; exact open_ ⟨_, rfl⟩
    · rintro _ rfl rfl; exact open_ ⟨_, rfl⟩
    · rintro _ rfl; cases plain
    · rintro rfl; cases plain
  · rw [readLiteralLines]

theorem runsWithin_of_le {c : Char} {most run run' : Nat} {text : List Char} (fewer : run' ≤ run)
    (within : Form.runsWithin c most run text = true)
    : Form.runsWithin c most run' text = true := by
  induction text generalizing run run' with
  | nil => rfl
  | cons d rest ih =>
    unfold Form.runsWithin at within ⊢
    split_ifs at within ⊢
    · simp only [Bool.and_eq_true, decide_eq_true_eq] at within ⊢
      exact ⟨by omega, ih (by omega) within.2⟩
    · exact within

theorem readLiteralLines_append {text rest : List Char}
    (admitted : ∀ c ∈ text, isPlain c = true ∨ c = '\n')
    (within : Form.runsWithin '\'' 2 0 text = true) (stops : rest.head? ≠ some '\'')
    : readLiteralLines (text ++ '\'' :: '\'' :: '\'' :: rest) = .ok (text, rest) := by
  induction text with
  | nil =>
    rw [List.nil_append, readLiteralLines]
    · rintro _ rfl; exact stops rfl
    · rintro _ rfl; exact stops rfl
  | cons c more ih =>
    have admits := admitted c List.mem_cons_self
    have ih := ih (fun d member => admitted d (List.mem_cons_of_mem c member))
    have behind : Form.runsWithin '\'' 2 0 more = true := by
      unfold Form.runsWithin at within
      split_ifs at within
      · exact runsWithin_of_le (Nat.zero_le _) (Bool.and_eq_true_iff.mp within).2
      · exact within
    have step (open_ : ¬ ['\'', '\'', '\''] <+: c :: (more ++ '\'' :: '\'' :: '\'' :: rest))
        : readLiteralLines (c :: more ++ '\'' :: '\'' :: '\'' :: rest) = .ok (c :: more, rest) := by
      rw [List.cons_append, readLiteralLines_cons admits open_, ih behind, Read.cons_ok]
    by_cases quote : c = '\''
    · subst quote
      -- The quotes at the end of the text are read with those that close it.
      rcases more with _ | ⟨d, last⟩
      · rw [List.singleton_append, readLiteralLines]
        rintro _ rfl
        exact stops rfl
      · by_cases another : d = '\''
        · subst another
          rcases last with _ | ⟨e, _⟩
          · rfl
          · refine step fun closes => ?_
            obtain rfl : '\'' = e := by simpa using closes
            simp [Form.runsWithin] at within
        · exact step fun closes => another (by simpa using closes : '\'' = d ∧ _).1.symm
    · exact step fun closes => quote (List.cons_prefix_cons.mp closes).1.symm

-----------------------------------------------------------------------------------------
-- Several lines between double quotes
-----------------------------------------------------------------------------------------

theorem readBasicLines_plain {c : Char} {rest : List Char} (plain : isPlain c = true)
    (noEscape : c ≠ '\\') (open_ : ¬ ['"', '"', '"'] <+: c :: rest)
    : readBasicLines false (c :: rest) = (readBasicLines false rest).cons c := by
  rw [readBasicLines]
  · rw [Bool.false_and, if_neg Bool.false_ne_true, if_pos plain]
  · rintro _ rfl rfl; exact open_ ⟨_, rfl⟩
  · rintro _ rfl rfl; exact open_ ⟨_, rfl⟩
  · rintro _ rfl rfl; exact open_ ⟨_, rfl⟩
  · rintro _ rfl; cases plain
  · rintro rfl; cases plain
  · rintro _ _ _ _ _ rfl; exact absurd rfl noEscape
  · rintro _ _ _ _ _ _ _ _ _ rfl; exact absurd rfl noEscape
  · rintro _ _ rfl; exact absurd rfl noEscape

theorem readBasicLines_escapeChar {c : Char} (noQuote : c ≠ '"') (rest : List Char)
    : readBasicLines false (escapeChar true c ++ rest) = (readBasicLines false rest).cons c := by
  unfold escapeChar
  split_ifs with h₁ h₂ h₃ h₄ h₅ h₆ h₇ h₈
  · subst c; simp [readBasicLines, escapedBy?, skipSpaces, afterLineEnd?, isSpace]
  · subst c; simp [readBasicLines, escapedBy?, skipSpaces, afterLineEnd?, isSpace]
  · subst c; simp [readBasicLines]
  · exact absurd rfl h₄
  · subst c; simp [readBasicLines, escapedBy?, skipSpaces, afterLineEnd?, isSpace]
  · subst c; simp [readBasicLines, escapedBy?, skipSpaces, afterLineEnd?, isSpace]
  · subst c; simp [readBasicLines, escapedBy?, skipSpaces, afterLineEnd?, isSpace]
  · refine readBasicLines_plain h₈ h₇ fun closes => noQuote ?_
    exact (List.cons_prefix_cons.mp closes).1.symm
  · obtain ⟨d₁, d₂, d₃, d₄, digits, reads⟩ := exists_hexDigits (Bool.eq_false_iff.mpr ‹_›)
    simp [digits, readBasicLines, reads]

/-- No quote comes first where the first character is none, or where no more quotes may stand. -/
theorem head?_escape {overLines : Bool} {c : Char} {run : Nat}
    (masked : c ≠ '"' ∨ (overLines && run < 2) = false) (more rest : List Char)
    : (escape overLines run (c :: more) ++ rest).head? ≠ some '"' := by
  by_cases quote : c = '"'
  · have noRoom : ¬(overLines && run < 2) = true := by
      rcases masked with other | full
      · exact absurd quote other
      · exact Bool.eq_false_iff.mp full
    rw [escape, if_pos quote, if_neg noRoom]
    simp
  · rw [escape, if_neg quote]
    unfold escapeChar
    split_ifs <;> simp [quote]

theorem readBasicLines_escape {text rest : List Char} (run : Nat) (stops : rest.head? ≠ some '"')
    : readBasicLines false (escape true run text ++ '"' :: '"' :: '"' :: rest)
      = .ok (text, rest) := by
  induction text generalizing run with
  | nil =>
    rw [escape, List.nil_append, readBasicLines]
    · rintro _ rfl; exact stops rfl
    · rintro _ rfl; exact stops rfl
  | cons c more ih =>
    by_cases quote : c = '"'
    · subst quote
      by_cases another : run < 2
      · rw [escape, if_pos rfl, if_pos (by simpa using another), List.cons_append]
        have step
            (open_ : ¬ ['"', '"'] <+: escape true (run + 1) more ++ '"' :: '"' :: '"' :: rest)
            : readBasicLines false
                ('"' :: (escape true (run + 1) more ++ '"' :: '"' :: '"' :: rest))
              = .ok ('"' :: more, rest) := by
          rw [readBasicLines_plain rfl (by decide), ih, Read.cons_ok]
          exact fun closes => open_ (List.cons_prefix_cons.mp closes).2
        -- The quotes at the end of the text are read with those that close it.
        rcases more with _ | ⟨d, last⟩
        · rw [escape, List.nil_append, readBasicLines]
          rintro _ rfl
          exact stops rfl
        · by_cases masked : d ≠ '"' ∨ (true && decide (run + 1 < 2)) = false
          · refine step fun ⟨_, closes⟩ => head?_escape masked last ('"' :: '"' :: '"' :: rest) ?_
            rw [← closes]
            rfl
          · obtain ⟨rfl, fewer⟩ : d = '"' ∧ run + 1 < 2 := by
              rwa [not_or, not_not, Bool.true_and, Bool.not_eq_false, decide_eq_true_eq] at masked
            rw [escape, if_pos rfl, if_pos (by simpa using fewer), List.cons_append] at step ⊢
            rcases last with _ | ⟨e, after⟩
            · rfl
            · have masked : e ≠ '"' ∨ (true && decide (run + 1 + 1 < 2)) = false := .inr (by simp)
              refine step fun closes => head?_escape masked after ('"' :: '"' :: '"' :: rest) ?_
              obtain ⟨_, same⟩ := (List.cons_prefix_cons.mp closes).2
              rw [← same]
              rfl
      · have masked : ¬ (true && decide (run < 2)) = true := by simpa using another
        rw [escape, if_pos rfl, if_neg masked]
        simp [readBasicLines, escapedBy?, skipSpaces, afterLineEnd?, isSpace, ih]
    · rw [escape, if_neg quote, List.append_assoc, readBasicLines_escapeChar quote, ih,
        Read.cons_ok]

-----------------------------------------------------------------------------------------
-- All forms
-----------------------------------------------------------------------------------------

theorem afterLineEnd?_other {c : Char} (noFeed : c ≠ '\n') (noReturn : c ≠ '\r')
    (rest : List Char)
    : afterLineEnd? (c :: rest) = none := by
  rw [afterLineEnd?]
  · exact fun _ same => noFeed (List.cons.inj same).1
  · exact fun _ same => noReturn (List.cons.inj same).1

/-- No line end comes first in the form of a text of one line. -/
theorem afterLineEnd?_escape {text : List Char} (noFeed : '\n' ∉ text) (run : Nat)
    (rest : List Char)
    : afterLineEnd? (escape true run text ++ '"' :: rest) = none := by
  cases text with
  | nil => exact afterLineEnd?_other (by decide) (by decide) rest
  | cons c more =>
    simp only [List.mem_cons, not_or] at noFeed
    unfold escape escapeChar
    split_ifs
    all_goals first
      | exact absurd ‹c = '\n'›.symm noFeed.1
      | exact afterLineEnd?_other (by simp_all [Ne.symm noFeed.1]) (by simp_all) _

theorem Form.literal_of_ofText {text : List Char} (form : Form.ofText text = .literal)
    : text ≠ [] ∧ (∀ c ∈ text, isPlain c = true) ∧ '\'' ∉ text := by
  unfold Form.ofText at form
  dsimp only at form
  split_ifs at form with basic literal
  simp only [Bool.and_eq_true, Bool.not_eq_true', List.any_eq_false, Form.isControl,
    List.contains_eq_mem, decide_eq_false_iff_not] at literal
  obtain ⟨⟨plain, noFeed⟩, noQuote⟩ := literal
  refine ⟨?_, fun c member => ?_, noQuote⟩
  · rintro rfl
    simp at basic
  · have admitted := plain c member
    have notFeed : c ≠ '\n' := fun same => noFeed (same ▸ member)
    simpa [notFeed] using admitted

theorem Form.literalLines_of_ofText {text : List Char} (form : Form.ofText text = .literalLines)
    : (∀ c ∈ text, isPlain c = true ∨ c = '\n') ∧ Form.runsWithin '\'' 2 0 text = true := by
  unfold Form.ofText at form
  dsimp only at form
  split_ifs at form with _ _ _ lines
  simp only [Bool.and_eq_true, Bool.not_eq_true', List.any_eq_false, Form.isControl] at lines
  refine ⟨fun c member => ?_, lines.2⟩
  have admitted := lines.1 c member
  by_cases feed : c = '\n'
  · exact .inr feed
  · exact .inl (by simpa [feed] using admitted)

/-- A text is read from its form, if no quote comes right behind that. -/
theorem readText_quote (text : List Char) {rest : List Char} (double : rest.head? ≠ some '"')
    (single : rest.head? ≠ some '\'')
    : readText (quote text ++ rest) = .ok (text, rest) := by
  unfold quote
  cases form : Form.ofText text with
  | basic =>
    simp only [Form.quotes, List.append_assoc, List.cons_append, List.nil_append]
    rw [readText]
    · exact readBasic_escape text rest
    · intro more same
      rcases text with _ | ⟨c, last⟩
      · rw [escape, List.nil_append] at same
        rw [(List.cons.inj same).2] at double
        exact double rfl
      · have masked : c ≠ '"' ∨ (false && decide (0 < 2)) = false := .inr rfl
        refine head?_escape masked last ('"' :: rest) ?_
        rw [same]
        rfl
  | literal =>
    obtain ⟨some_, plain, noQuote⟩ := Form.literal_of_ofText form
    simp only [Form.quotes, List.append_assoc, List.cons_append, List.nil_append]
    rw [readText]
    · exact readLiteral_append plain noQuote rest
    · intro more same
      rcases text with _ | ⟨c, last⟩
      · exact some_ rfl
      · exact noQuote ((List.cons.inj same).1 ▸ List.mem_cons_self)
  | basicLines =>
    simp only [Form.quotes, List.append_assoc, List.cons_append, List.nil_append]
    rw [readText]
    split_ifs with lines
    · exact readBasicLines_escape 0 double
    · rw [List.nil_append, afterLineEnd?_escape (by simpa using lines)]
      exact readBasicLines_escape 0 double
  | literalLines =>
    obtain ⟨admitted, within⟩ := Form.literalLines_of_ofText form
    simp only [Form.quotes, List.append_assoc, List.cons_append, List.nil_append]
    rw [readText]
    split_ifs with lines
    · exact readLiteralLines_append admitted within single
    · have noFeed : '\n' ∉ text := by simpa using lines
      have stays
          : afterLineEnd? (text ++ '\'' :: '\'' :: '\'' :: rest) = none := by
        rcases text with _ | ⟨c, last⟩
        · exact afterLineEnd?_other (by decide) (by decide) _
        · refine afterLineEnd?_other (fun same => noFeed (same ▸ List.mem_cons_self)) ?_ _
          rintro rfl
          rcases admitted _ List.mem_cons_self with plain | feed
          · cases plain
          · cases feed
      rw [List.nil_append, stays]
      exact readLiteralLines_append admitted within single

end Casebook.Toml
