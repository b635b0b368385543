import Mathlib.Data.List.Lex

/-! The order of texts. UTF-8 keeps the order of code points: where two texts first differ, the
encoded characters differ before either of them ends.
-/

namespace Casebook.Text

/-- The bytes of a text. -/
def bytes (text : String) : List UInt8 :=
  text.toUTF8.data.toList

theorem bytes_eq_flatMap (text : String)
    : bytes text = text.toList.flatMap String.utf8EncodeChar := by
  rw [bytes, String.toUTF8_eq_toByteArray, ← String.utf8Encode_toList, List.utf8Encode]
  exact List.data_toByteArray ▸ rfl

/-- A smaller number has a smaller quotient, or the same one and a smaller remainder. -/
private theorem quotient_lt_or {a b : Nat} (lt : a < b)
    : a / 64 < b / 64 ∨ a / 64 = b / 64 ∧ a % 64 < b % 64 := by
  omega

/-- A character is told from a later one by its bytes, whatever follows the two. The first bytes
tell how many there are; of as many, each holds six more bits of the code point.
-/
theorem utf8EncodeChar_append_lt {c d : Char} (before : c < d) (rest more : List UInt8)
    : String.utf8EncodeChar c ++ rest < String.utf8EncodeChar d ++ more := by
  have lt : c.val.toNat < d.val.toNat := before
  have upper : d.val.toNat < 0x110000 := by
    have valid := d.valid
    simp only [UInt32.isValidChar, Nat.isValidChar] at valid
    omega
  -- No byte runs over: what is added to its bits leaves room for them.
  have trailing (n : Nat) : (n % 64 + 128) % 256 = n % 64 + 128 := by omega
  have leading (n : Nat) (small : n < 0x110000)
      : (n / 262144 % 8 + 240) % 256 = n / 262144 + 240 := by
    omega
  have leadingC := leading _ (Nat.lt_trans lt upper)
  have leadingD := leading _ upper
  have last := quotient_lt_or lt
  have third := quotient_lt_or (a := c.val.toNat / 64) (b := d.val.toNat / 64)
  have second := quotient_lt_or (a := c.val.toNat / 64 / 64) (b := d.val.toNat / 64 / 64)
  simp only [Nat.div_div_eq_div_mul, Nat.reduceMul] at last third second
  unfold String.utf8EncodeChar
  dsimp only
  split_ifs
  all_goals
    simp only [List.cons_append, List.nil_append, List.cons_lt_cons_iff,
      UInt8.lt_iff_toNat_lt, ← UInt8.toNat_inj, UInt8.toNat_ofNat', Nat.reducePow, trailing,
      leadingC, leadingD]
    omega

/-- Encoding keeps the order of lists of characters, by induction on the first. -/
private theorem flatMap_utf8EncodeChar_lt {a b : List Char} (before : a < b)
    : a.flatMap String.utf8EncodeChar < b.flatMap String.utf8EncodeChar := by
  induction a generalizing b with
  | nil =>
    cases b with
    | nil => exact absurd before (List.lt_irrefl [])
    | cons d more =>
      obtain ⟨first, rest, encoded⟩ :=
        List.exists_cons_of_ne_nil (String.utf8EncodeChar_ne_nil (c := d))
      rw [List.flatMap_nil, List.flatMap_cons, encoded, List.cons_append]
      exact List.nil_lt_cons _ _
  | cons c rest ih =>
    cases b with
    | nil => exact absurd before (List.not_lt_nil _)
    | cons d more =>
      rw [List.flatMap_cons, List.flatMap_cons]
      rcases List.cons_lt_cons_iff.mp before with earlier | ⟨rfl, later⟩
      · exact utf8EncodeChar_append_lt earlier _ _
      · exact List.append_left_lt (ih later)

/-- Texts in the order of their code points are in the order of their bytes. -/
theorem bytes_lt {a b : String} (before : a.toList < b.toList)
    : bytes a < bytes b := by
  rw [bytes_eq_flatMap, bytes_eq_flatMap]
  exact flatMap_utf8EncodeChar_lt before

end Casebook.Text
