import Casebook.Text.Split

/-! Parts of a text between separators. A separator in a text cuts it into two, and the parts of
both make up the parts of the whole.
-/

namespace Casebook.Text

theorem split_cons_separator (separator : Char) (rest : List Char)
    : split separator (separator :: rest) = [] :: split separator rest := by
  simp [split]

/-- Another character joins the first of the parts behind it. -/
theorem split_cons_other {separator c : Char} (other : c ≠ separator) {rest part : List Char}
    {more : List (List Char)} (parts : split separator rest = part :: more)
    : split separator (c :: rest) = (c :: part) :: more := by
  unfold split at parts ⊢
  rw [List.foldr_cons, if_neg other, parts]

/-- A text has at least one part, by induction on it. -/
theorem split_ne_nil (separator : Char) (text : List Char)
    : split separator text ≠ [] := by
  induction text with
  | nil => exact List.cons_ne_nil _ _
  | cons c rest ih =>
    by_cases same : c = separator
    · rw [same, split_cons_separator]
      exact List.cons_ne_nil _ _
    · obtain ⟨part, more, parts⟩ := List.exists_cons_of_ne_nil ih
      rw [split_cons_other same parts]
      exact List.cons_ne_nil _ _

/-- The parts before a separator and those behind it make up all parts, by induction on what
stands before it.
-/
theorem split_append_cons (separator : Char) (front rest : List Char)
    : split separator (front ++ separator :: rest)
      = split separator front ++ split separator rest := by
  induction front with
  | nil => exact split_cons_separator separator rest
  | cons c front ih =>
    rw [List.cons_append]
    by_cases same : c = separator
    · rw [same, split_cons_separator, split_cons_separator, ih, List.cons_append]
    · obtain ⟨part, more, parts⟩ := List.exists_cons_of_ne_nil (split_ne_nil separator front)
      rw [parts, List.cons_append] at ih
      rw [split_cons_other same ih, split_cons_other same parts, List.cons_append]

/-- A text without the separator is one part, by induction on it. -/
theorem split_of_not_mem {separator : Char} {text : List Char} (clean : separator ∉ text)
    : split separator text = [text] := by
  induction text with
  | nil => rfl
  | cons c rest ih =>
    rw [List.mem_cons, not_or] at clean
    exact split_cons_other (fun same => clean.1 same.symm) (ih clean.2)

/-- No part holds the separator, by induction on the text. -/
theorem not_mem_of_mem_split {separator : Char} {text part : List Char}
    (member : part ∈ split separator text)
    : separator ∉ part := by
  induction text generalizing part with
  | nil =>
    rw [List.mem_singleton.mp member]
    exact List.not_mem_nil
  | cons c rest ih =>
    by_cases same : c = separator
    · rw [same, split_cons_separator] at member
      rcases List.mem_cons.mp member with rfl | later
      · exact List.not_mem_nil
      · exact ih later
    · obtain ⟨first, more, parts⟩ := List.exists_cons_of_ne_nil (split_ne_nil separator rest)
      rw [parts] at ih
      rw [split_cons_other same parts] at member
      rcases List.mem_cons.mp member with rfl | later
      · rw [List.mem_cons, not_or]
        exact ⟨fun equal => same equal.symm, ih List.mem_cons_self⟩
      · exact ih (List.mem_cons_of_mem first later)

/-- A part holds only characters of the text, by induction on it. -/
theorem subset_of_mem_split {separator : Char} {text part : List Char}
    (member : part ∈ split separator text)
    : part ⊆ text := by
  induction text generalizing part with
  | nil =>
    rw [List.mem_singleton.mp member]
    exact List.nil_subset []
  | cons c rest ih =>
    by_cases same : c = separator
    · rw [same, split_cons_separator] at member
      rcases List.mem_cons.mp member with rfl | later
      · exact List.nil_subset _
      · exact List.subset_cons_of_subset c (ih later)
    · obtain ⟨first, more, parts⟩ := List.exists_cons_of_ne_nil (split_ne_nil separator rest)
      rw [parts] at ih
      rw [split_cons_other same parts] at member
      rcases List.mem_cons.mp member with rfl | later
      · exact List.cons_subset_cons c (ih List.mem_cons_self)
      · exact List.subset_cons_of_subset c (ih (List.mem_cons_of_mem first later))

/-- Parts without the separator that are put together with it between any two are the parts of the
whole, by induction on them.
-/
theorem split_intercalate {separator : Char} {parts : List (List Char)} (some : parts ≠ [])
    (clean : ∀ part ∈ parts, separator ∉ part)
    : split separator ([separator].intercalate parts) = parts := by
  induction parts with
  | nil => exact absurd rfl some
  | cons part rest ih =>
    have first := split_of_not_mem (clean part List.mem_cons_self)
    cases rest with
    | nil => rw [List.intercalate_singleton, first]
    | cons next more =>
      have later :=
        ih (List.cons_ne_nil next more) fun other member =>
          clean other (List.mem_cons_of_mem part member)
      rw [List.intercalate_cons_cons, List.append_assoc, List.singleton_append, split_append_cons,
        first, later, List.singleton_append]

/-- A text with one part only is that part, by induction on it. -/
theorem eq_of_split_eq_singleton {separator : Char} {text part : List Char}
    (single : split separator text = [part])
    : text = part := by
  induction text generalizing part with
  | nil => exact List.singleton_inj.mp single
  | cons c rest ih =>
    by_cases same : c = separator
    · rw [same, split_cons_separator] at single
      exact absurd (List.cons.inj single).2 (split_ne_nil separator rest)
    · obtain ⟨first, more, parts⟩ := List.exists_cons_of_ne_nil (split_ne_nil separator rest)
      rw [split_cons_other same parts] at single
      obtain ⟨rfl, rfl⟩ := List.cons.inj single
      rw [ih parts]

end Casebook.Text
