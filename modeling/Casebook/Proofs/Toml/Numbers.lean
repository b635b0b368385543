import Mathlib.Tactic.SplitIfs
import Casebook.Toml.Number

/-! Numbers that are written and read again. The decimal digits of a number without a sign are read
as that number, wherever something comes behind them that no number goes on with.
-/

namespace Casebook.Toml

/-- A line end, a comma or a bracket comes next, which end a value. -/
def EndsValue (rest : List Char) : Prop :=
  ∃ c more, rest = c :: more ∧ (c = '\n' ∨ c = ',' ∨ c = ']')

theorem digit_ne {c d : Char} (digit : c.isDigit = true) (other : d.isDigit = false)
    : c ≠ d := by
  rintro rfl
  simp_all

theorem moreDigits_append {digits : List Char} (all : ∀ c ∈ digits, c.isDigit = true)
    {rest : List Char} (ends : EndsValue rest)
    : moreDigits Char.isDigit (digits ++ rest) = (digits, rest) := by
  induction digits with
  | nil =>
    obtain ⟨c, more, rfl, rfl | rfl | rfl⟩ := ends <;> rfl
  | cons c more ih =>
    simp only [List.mem_cons, forall_eq_or_imp] at all
    rw [List.cons_append, moreDigits, if_pos all.1, ih all.2]
    rintro _ _ rfl
    exact absurd all.1 (by decide)

/-- Only zero has a zero as its first digit. -/
theorem tail_toDigits {n : Nat} {rest : List Char} (digits : Nat.toDigits 10 n = '0' :: rest)
    : rest = [] := by
  induction n using Nat.strongRecOn generalizing rest with
  | ind n ih =>
    by_cases small : n < 10
    · rw [Nat.toDigits_of_lt_base small] at digits
      exact (List.cons.inj digits).2.symm
    · rw [Nat.toDigits_of_base_le (by decide) (Nat.le_of_not_lt small)] at digits
      cases front : Nat.toDigits 10 (n / 10) with
      | nil => exact absurd front Nat.toDigits_ne_nil
      | cons c more =>
        rw [front, List.cons_append] at digits
        obtain ⟨rfl, -⟩ := List.cons.inj digits
        obtain rfl := ih (n / 10) (by omega) front
        have zero := Nat.ofDigitChars_ten_toDigits (n := n / 10)
        rw [front] at zero
        simp only [Nat.ofDigitChars_cons, Nat.ofDigitChars_nil] at zero
        omega

theorem ofDigits_eq_ofDigitChars {digits : List Char} (all : ∀ c ∈ digits, c.isDigit = true)
    (start : Nat)
    : digits.foldl (fun n c => n * 10 + (hexValue? c).getD 0) start
      = Nat.ofDigitChars 10 digits start := by
  induction digits generalizing start with
  | nil => rfl
  | cons c more ih =>
    simp only [List.mem_cons, forall_eq_or_imp] at all
    rw [List.foldl_cons, ih all.2, Nat.ofDigitChars_cons, hexValue?, if_pos all.1, Nat.mul_comm]
    rfl

theorem isDigit_of_mem_toDigits {n : Nat} : ∀ c ∈ Nat.toDigits 10 n, c.isDigit = true :=
  fun _ => Nat.isDigit_of_mem_toDigits (by decide) (by decide)

theorem exists_firstDigit (n : Nat)
    : ∃ c more, Nat.toDigits 10 n = c :: more ∧ c.isDigit = true := by
  obtain ⟨c, more, digits⟩ := List.exists_cons_of_ne_nil (Nat.toDigits_ne_nil (n := n) (b := 10))
  exact ⟨c, more, digits, isDigit_of_mem_toDigits c (digits ▸ List.mem_cons_self)⟩

theorem ofDigits_toDigits (n : Nat)
    : ofDigits 10 (Nat.toDigits 10 n) = n := by
  rw [ofDigits, ofDigits_eq_ofDigitChars isDigit_of_mem_toDigits, Nat.ofDigitChars_ten_toDigits]

/-- Digits with something behind them that ends a value are no date and no time, which have a dash
or a colon behind their first digits.
-/
theorem number?_append {digits rest : List Char} (all : ∀ c ∈ digits, c.isDigit = true)
    (ends : EndsValue rest) (width : Nat)
    (begins : (number? width ((digits ++ rest).take width)).isSome = true)
    : ((digits ++ rest).drop width).head? ≠ some '-'
      ∧ ((digits ++ rest).drop width).head? ≠ some ':' := by
  obtain ⟨c, more, rfl, isEnd⟩ := ends
  have whole : ((digits ++ c :: more).take width).all Char.isDigit = true := by
    unfold number? at begins
    split_ifs at begins with whole
    · exact whole.2
    · cases begins
  by_cases short : width ≤ digits.length
  · rw [List.drop_append_of_le_length short]
    cases behind : digits.drop width with
    | nil => rcases isEnd with rfl | rfl | rfl <;> simp
    | cons d _ =>
      have digit := all d (List.mem_of_mem_drop (behind ▸ List.mem_cons_self))
      have dash := digit_ne digit (show '-'.isDigit = false by decide)
      have colon := digit_ne digit (show ':'.isDigit = false by decide)
      simp [dash, colon]
  · -- What ends the value would be one of the digits.
    have inFront : c ∈ (digits ++ c :: more).take width := by
      obtain ⟨k, same⟩ : ∃ k, width - digits.length = k + 1 :=
        ⟨width - digits.length - 1, by omega⟩
      rw [List.take_append, same, List.take_succ_cons]
      exact List.mem_append_right _ List.mem_cons_self
    have digit := List.all_eq_true.mp whole c inFront
    rcases isEnd with rfl | rfl | rfl <;> cases digit

theorem wholeDigits?_append (n : Nat) {rest : List Char} (ends : EndsValue rest)
    : wholeDigits? (Nat.toDigits 10 n ++ rest) = some (Nat.toDigits 10 n, rest) := by
  cases digits : Nat.toDigits 10 n with
  | nil => exact absurd digits Nat.toDigits_ne_nil
  | cons c more =>
    have all : ∀ d ∈ c :: more, d.isDigit = true := digits ▸ isDigit_of_mem_toDigits
    by_cases zero : c = '0'
    · subst zero
      rw [tail_toDigits digits]
      rfl
    · rw [List.cons_append, wholeDigits?]
      · rw [digits?, if_pos (all c List.mem_cons_self),
          moreDigits_append (fun d member => all d (List.mem_cons_of_mem c member)) ends]
      · rintro _ same
        exact zero (List.cons.inj same).1

theorem readDecimal_append {n : Nat} (fits : isInteger n = true) {rest : List Char}
    (ends : EndsValue rest)
    : readDecimal (Nat.toDigits 10 n ++ rest) = .ok (.integer n, rest) := by
  have sign : readSign (Nat.toDigits 10 n ++ rest) = (false, Nat.toDigits 10 n ++ rest) := by
    obtain ⟨c, more, digits, digit⟩ := exists_firstDigit n
    rw [digits, List.cons_append, readSign]
    · rintro _ same
      exact digit_ne digit (by decide) (List.cons.inj same).1
    · rintro _ same
      exact digit_ne digit (by decide) (List.cons.inj same).1
  have fraction : readFraction rest = .ok ([], rest) := by
    obtain ⟨c, more, rfl, rfl | rfl | rfl⟩ := ends <;> rfl
  have exponent : readExponent rest = .ok (none, rest) := by
    obtain ⟨c, more, rfl, rfl | rfl | rfl⟩ := ends <;> rfl
  simp only [readDecimal, sign, wholeDigits?_append n ends, fraction, exponent, ofDigits_toDigits,
    bind, Except.bind, List.isEmpty_nil, Option.isNone_none, Bool.and_self, if_true]
  rw [integerOf, signed, if_neg Bool.false_ne_true, if_pos fits]

theorem readNumber_append {n : Nat} (fits : isInteger n = true) {rest : List Char}
    (ends : EndsValue rest)
    : readNumber (Nat.toDigits 10 n ++ rest) = .ok (.integer n, rest) := by
  have begins := number?_append (isDigit_of_mem_toDigits (n := n)) ends
  have noMoment : afterMoment? (Nat.toDigits 10 n ++ rest) = none := by
    have noDate : startsDate (Nat.toDigits 10 n ++ rest) = false := by
      rw [startsDate, Bool.and_eq_false_iff, decide_eq_false_iff_not]
      exact (Bool.eq_false_or_eq_true _).symm.imp_right fun isDate => (begins 4 isDate).1
    have noTime : startsTime (Nat.toDigits 10 n ++ rest) = false := by
      rw [startsTime, Bool.and_eq_false_iff, decide_eq_false_iff_not]
      exact (Bool.eq_false_or_eq_true _).symm.imp_right fun isTime => (begins 2 isTime).2
    rw [afterMoment?, noDate, noTime]
    rfl
  -- A zero in front is all of the number, so no letter for another base comes behind it.
  have noBase (letter : Char) (more : List Char)
      (other : letter ≠ '\n' ∧ letter ≠ ',' ∧ letter ≠ ']')
      : Nat.toDigits 10 n ++ rest ≠ '0' :: letter :: more := by
    intro same
    cases digits : Nat.toDigits 10 n with
    | nil => exact Nat.toDigits_ne_nil digits
    | cons c tail =>
      rw [digits, List.cons_append] at same
      obtain ⟨rfl, behind⟩ := List.cons.inj same
      obtain rfl := tail_toDigits digits
      obtain ⟨d, _, rfl, isEnd⟩ := ends
      obtain ⟨rfl, -⟩ := List.cons.inj behind
      rcases isEnd with rfl | rfl | rfl <;> simp at other
  rw [readNumber, noMoment]
  · exact readDecimal_append fits ends
  · exact fun _ => noBase _ _ (by decide)
  · exact fun _ => noBase _ _ (by decide)
  · exact fun _ => noBase _ _ (by decide)

end Casebook.Toml
