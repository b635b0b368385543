import Mathlib
import Casebook.Report

/-! Counting texts. A tally has each text of a list once, in order and with the number of times that
it comes, so the numbers add up to the length of the list.
-/

namespace Casebook.Summary

/-- The keys of a list of counts are in order, and so each comes once. -/
def InOrder (counts : List (String × Nat)) : Prop :=
  counts.Pairwise fun a b => a.1.toList < b.1.toList

variable {key text : String} {n : Nat} {counts : List (String × Nat)}

/-- A key that stands before all others is none of them. -/
private theorem not_mem_of_least (least : ∀ entry ∈ counts, key.toList < entry.1.toList)
    : (key, n) ∉ counts :=
  fun member => lt_irrefl _ (least _ member)

/-- A key that counts one more is among the keys with one more, and all others stay. By induction on
the counts.
-/
theorem mem_countOne (ordered : InOrder counts)
    : (text, n) ∈ countOne key counts
      ↔ text ≠ key ∧ (text, n) ∈ counts
        ∨ text = key ∧ ((∃ m, n = m + 1 ∧ (key, m) ∈ counts)
            ∨ n = 1 ∧ ∀ m, (key, m) ∉ counts) := by
  induction counts with
  | nil => simp [countOne]
  | cons entry rest ih =>
    obtain ⟨other, m⟩ := entry
    obtain ⟨least, behind⟩ := List.pairwise_cons.mp ordered
    unfold countOne
    split
    next same =>
      subst same
      have absent (m) : (key, m) ∉ rest := not_mem_of_least least
      by_cases is : text = key
      · subst is
        simp [absent]
      · simp [is]
    next differs =>
      split
      next earlier =>
        have absent (m) : (key, m) ∉ rest :=
          not_mem_of_least fun entry member => lt_trans earlier (least entry member)
        by_cases is : text = key
        · subst is
          simp [absent, differs]
        · simp [is]
      next notEarlier =>
        rw [List.mem_cons, ih behind]
        by_cases is : text = key
        · subst is
          simp [differs]
        · simp [is]

/-- A key that counts one more leaves the keys in order, by induction on the counts. -/
theorem InOrder.countOne (ordered : InOrder counts)
    : InOrder (countOne key counts) := by
  induction counts with
  | nil => exact List.pairwise_singleton _ _
  | cons entry rest ih =>
    obtain ⟨other, m⟩ := entry
    obtain ⟨least, behind⟩ := List.pairwise_cons.mp ordered
    unfold Summary.countOne
    split
    next same => exact List.pairwise_cons.mpr ⟨least, behind⟩
    next differs =>
      split
      next earlier =>
        refine List.pairwise_cons.mpr ⟨?_, ordered⟩
        intro entry member
        rcases List.mem_cons.mp member with rfl | later
        · exact earlier
        · exact lt_trans earlier (least entry later)
      next notEarlier =>
        have later : other.toList < key.toList := by
          rcases lt_trichotomy key.toList other.toList with before | same | after
          · exact absurd before notEarlier
          · exact absurd (String.toList_injective same) differs
          · exact after
        refine List.pairwise_cons.mpr ⟨?_, ih behind⟩
        intro (text, n) member
        rcases (mem_countOne behind).mp member with ⟨-, kept⟩ | ⟨rfl, -⟩
        · exact least _ kept
        · exact later

end Casebook.Summary
