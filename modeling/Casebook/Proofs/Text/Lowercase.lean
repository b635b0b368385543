import Casebook.Config.Basic
import Casebook.Proofs.Unicode.CaseMap

/-! Lowercase text stays as it is when it is put in lower case again, and begins with a dot only
where the text did.
-/

namespace Casebook.Text

open Unicode

-----------------------------------------------------------------------------------------
-- Characters
-----------------------------------------------------------------------------------------

/-- A character that is its own lowercase form wherever it stands. -/
def IsLowercase (c : Char) : Prop :=
  lowercaseChar c = [c] ∧ c ≠ 'Σ'

/-- The capitals that are not in ASCII. -/
theorem eq_of_mem_capitals {c : Char} (beyond : ¬ c.toNat < 0x80) (capital : c.toNat ∈ capitals)
    : c = 'Σ' ∨ c = '\u0130' := by
  simp only [capitals, List.mem_append, List.mem_cons, List.not_mem_nil, or_false,
    List.mem_map, List.mem_range, Char.toNat_inj] at capital
  rcases capital with (dot | special) | ⟨n, within, same⟩
  · exact absurd (dot ▸ by decide) beyond
  · exact special
  · simp only [Char.reduceToNat] at same
    omega

/-- A form in ASCII is in ASCII, has no other one, and is a dot only as that of the dot. -/
theorem toLower_of_lt
    : ∀ code < 0x80,
        (Char.ofNat code).toLower.toNat < 0x80
        ∧ (Char.ofNat code).toLower.toLower = (Char.ofNat code).toLower
        ∧ ((Char.ofNat code).toLower = '.' → Char.ofNat code = '.') := by
  decide

theorem toLower_of_not_mem_capitals
    : ∀ code < 0x80, code ∉ capitals → (Char.ofNat code).toLower = Char.ofNat code := by
  decide

/-- A code point that the map leaves alone is a lowercase character, if it is no capital. -/
theorem isLowercase_ofNat {code : Nat} (low : code ∉ capitals)
    (stays : mapThrough lowercaseRuns code = code)
    : IsLowercase (Char.ofNat code) ∧ Char.ofNat code ≠ '.' := by
  by_cases valid : code.isValidChar
  · have same : (Char.ofNat code).toNat = code := by
      rw [Char.ofNat, dif_pos valid]
      rfl
    have other {c : Char} (capital : c.toNat ∈ capitals) : Char.ofNat code ≠ c := by
      intro equal
      rw [← equal, same] at capital
      exact low capital
    refine ⟨⟨?_, other (by decide)⟩, other (by decide)⟩
    unfold lowercaseChar
    split
    next ascii => rw [toLower_of_not_mem_capitals code (same ▸ ascii) low]
    next => rw [if_neg (other (by decide)), same, stays]
  · have none : Char.ofNat code = '\x00' := by
      rw [Char.ofNat, dif_neg valid]
      rfl
    rw [none]
    exact ⟨⟨rfl, by decide⟩, by decide⟩

theorem isLowercase_of_mem_specialForms {form : Char} (special : form.toNat ∈ specialForms)
    : IsLowercase form ∧ form ≠ '.' := by
  obtain ⟨low, stays⟩ := settles_lowercaseRuns.stays (List.mem_append_left _ special)
  simpa only [Char.ofNat_toNat] using isLowercase_ofNat low stays

/-- The lowercase forms of a character are lowercase, and a dot only as that of the dot. -/
theorem isLowercase_of_mem {c form : Char} (notSigma : c ≠ 'Σ') (member : form ∈ lowercaseChar c)
    : IsLowercase form ∧ (form = '.' → c = '.') := by
  unfold lowercaseChar at member
  split at member
  next ascii =>
    rw [List.mem_singleton] at member
    obtain ⟨within, again, dot⟩ := toLower_of_lt c.toNat ascii
    rw [Char.ofNat_toNat, ← member] at within again dot
    refine ⟨⟨by rw [lowercaseChar, if_pos within, again], ?_⟩, dot⟩
    rintro rfl
    exact absurd within (by decide)
  next beyond =>
    suffices IsLowercase form ∧ form ≠ '.' from ⟨this.1, fun dot => absurd dot this.2⟩
    split at member
    next =>
      apply isLowercase_of_mem_specialForms
      simp only [List.mem_cons, List.not_mem_nil, or_false] at member
      rcases member with rfl | rfl <;> decide
    next notDotted =>
      rw [List.mem_singleton] at member
      have low : c.toNat ∉ capitals :=
        fun capital => (eq_of_mem_capitals beyond capital).elim notSigma notDotted
      obtain ⟨low, stays⟩ := settles_lowercaseRuns.mapThrough_mapThrough low
      rw [member]
      exact isLowercase_ofNat low stays

-----------------------------------------------------------------------------------------
-- Texts
-----------------------------------------------------------------------------------------

/-- A text of lowercase characters stays as it is, by induction on it. -/
theorem lowercaseAfter_of_isLowercase {text : List Char} (lower : ∀ c ∈ text, IsLowercase c)
    (before : List Char)
    : lowercaseAfter before text = text := by
  induction text generalizing before with
  | nil => rfl
  | cons c rest ih =>
    obtain ⟨⟨same, notSigma⟩, lowerRest⟩ := List.forall_mem_cons.mp lower
    simp only [lowercaseAfter, if_neg notSigma, same, ih lowerRest, List.singleton_append]

/-- What a text is put into has lowercase characters only, by induction on it. -/
theorem isLowercase_of_mem_lowercaseAfter {before text : List Char} {form : Char}
    (member : form ∈ lowercaseAfter before text)
    : IsLowercase form := by
  induction text generalizing before with
  | nil => cases member
  | cons c rest ih =>
    rw [lowercaseAfter, List.mem_append] at member
    rcases member with first | later
    · split at first
      next =>
        refine (isLowercase_of_mem_specialForms ?_).1
        rw [List.mem_singleton] at first
        rw [first]
        split <;> decide
      next notSigma => exact (isLowercase_of_mem notSigma first).1
    · exact ih later

theorem lowercase_lowercase (text : List Char)
    : lowercase (lowercase text) = lowercase text :=
  lowercaseAfter_of_isLowercase (fun _ member => isLowercase_of_mem_lowercaseAfter member) []

/-- A character has a form at least, and only the dot has a form that begins with one. -/
theorem exists_lowercase_cons (c : Char) (rest : List Char)
    : ∃ form forms, lowercase (c :: rest) = form :: forms ∧ (form = '.' → c = '.') := by
  rw [lowercase, lowercaseAfter]
  split
  next =>
    refine ⟨_, _, List.singleton_append, fun dot => ?_⟩
    split at dot <;> cases dot
  next notSigma =>
    have some : lowercaseChar c ≠ [] := by
      unfold lowercaseChar
      split
      · exact List.cons_ne_nil _ _
      · split <;> exact List.cons_ne_nil _ _
    obtain ⟨form, forms, known⟩ := List.exists_cons_of_ne_nil some
    refine ⟨form, _, by rw [known, List.cons_append], ?_⟩
    exact (isLowercase_of_mem notSigma (known ▸ List.mem_cons_self)).2

theorem lowercase_eq_nil_iff {text : List Char}
    : lowercase text = [] ↔ text = [] := by
  cases text with
  | nil => exact iff_of_true rfl rfl
  | cons c rest =>
    obtain ⟨form, forms, known, -⟩ := exists_lowercase_cons c rest
    simp only [known, List.cons_ne_nil]

-----------------------------------------------------------------------------------------
-- Dots in front
-----------------------------------------------------------------------------------------

theorem withoutDots_of_head? {text : List Char} (noDot : text.head? ≠ some '.')
    : withoutDots text = text := by
  cases text with
  | nil => rfl
  | cons c rest =>
    have other : c ≠ '.' := fun dot => noDot (congrArg some dot)
    rw [withoutDots, List.dropWhile_cons, if_neg (by simpa using other)]

theorem head?_withoutDots (text : List Char)
    : (withoutDots text).head? ≠ some '.' := by
  intro dot
  have := List.head?_dropWhile_not (· = '.') text
  rw [← withoutDots, dot] at this
  simp at this

/-- In lower case a text has no more dots in front than it had. -/
theorem withoutDots_lowercase {text : List Char} (noDot : text.head? ≠ some '.')
    : withoutDots (lowercase text) = lowercase text := by
  cases text with
  | nil => rfl
  | cons c rest =>
    obtain ⟨form, forms, known, dot⟩ := exists_lowercase_cons c rest
    rw [known]
    refine withoutDots_of_head? fun first => noDot ?_
    exact congrArg some (dot (Option.some.inj first))

end Casebook.Text
