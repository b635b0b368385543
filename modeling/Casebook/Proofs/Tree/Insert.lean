import Casebook.Tree.Basic

/-! What stands where after an entry was put into a tree. -/

namespace Casebook.Tree

/-- The directory that relative paths start from stays where it is. -/
@[simp]
theorem home_insert (t : Tree) (place : Location) (entry : Entry)
    : (t.insert place entry).home = t.home := by
  unfold insert
  split <;> rfl

/-- The tree is kept on what it was kept on. -/
@[simp]
theorem medium_insert (t : Tree) (place : Location) (entry : Entry)
    : (t.insert place entry).medium = t.medium := by
  unfold insert
  split <;> rfl

/-- Of two entries that are put in one place the later one stays. -/
theorem insert_insert (t : Tree) (place : Location) (earlier later : Entry)
    : (t.insert place earlier).insert place later = t.insert place later := by
  by_cases listed : t.entries.any (·.1 = place) = true
  · have still
        : (t.entries.map fun old => if old.1 = place then (place, earlier) else old).any
              (·.1 = place)
            = true := by
      obtain ⟨old, member, same⟩ := List.any_eq_true.mp listed
      refine List.any_eq_true.mpr ⟨(place, earlier), List.mem_map.mpr ⟨old, member, ?_⟩, by simp⟩
      exact if_pos (of_decide_eq_true same)
    rw [insert, insert, if_pos listed, if_pos still, insert, if_pos listed, List.map_map]
    congr 1
    apply List.map_congr_left
    intro old _
    by_cases same : old.1 = place <;> simp [same]
  · have now : (t.entries ++ [(place, earlier)]).any (·.1 = place) = true := by simp
    have others
        : (t.entries.map fun old => if old.1 = place then (place, later) else old) = t.entries := by
      refine (List.map_congr_left fun old member => if_neg fun same => listed ?_).trans
        (List.map_id _)
      exact List.any_eq_true.mpr ⟨old, member, decide_eq_true same⟩
    rw [insert, insert, if_neg listed, if_pos now, insert, if_neg listed, List.map_append, others]
    simp

/-- Where an entry is already listed, it is found in the list with the new one in its place. -/
private theorem find?_replaced {entries : List (Location × Entry)} {place q : Location}
    {entry : Entry} (listed : entries.any (·.1 = place) = true)
    : ((entries.map fun old => if old.1 = place then (place, entry) else old).find?
          (·.1 = q)).map Prod.snd
      = if q = place then some entry else (entries.find? (·.1 = q)).map Prod.snd := by
  have samePlace : ∀ old : Location × Entry,
      (if old.1 = place then (place, entry) else old).1 = old.1 := by
    intro old
    split
    next same => exact same.symm
    next => rfl
  rw [List.find?_map]
  simp only [Function.comp_def, samePlace]
  cases found : entries.find? (·.1 = q) with
  | none =>
    have other : q ≠ place := by
      rintro rfl
      obtain ⟨old, member, same⟩ := List.any_eq_true.mp listed
      exact List.find?_eq_none.mp found old member same
    rw [if_neg other]
    rfl
  | some old =>
    have key : old.1 = q := by simpa using List.find?_some found
    rw [Option.map_some, Option.map_some, key]
    split <;> rfl

/-- Below the top an inserted entry stands at its place, and all others stand where they stood. -/
theorem get?_insert {t : Tree} {place : Location} (below : place ≠ []) (entry : Entry)
    (q : Location)
    : (t.insert place entry).get? q = if q = place then some entry else t.get? q := by
  cases q with
  | nil => rw [if_neg fun same => below same.symm, get?, get?]
  | cons n up =>
    by_cases listed : t.entries.any (·.1 = place) = true
    · rw [insert, if_pos listed]
      exact find?_replaced listed
    · rw [insert, if_neg listed, get?, get?, List.find?_append]
      by_cases same : n :: up = place
      · have absent : t.entries.find? (·.1 = n :: up) = none := by
          refine List.find?_eq_none.mpr fun old member found => listed ?_
          exact List.any_eq_true.mpr ⟨old, member, same ▸ found⟩
        rw [absent, if_pos same]
        simp [same]
      · have apart : ¬ place = n :: up := fun equal => same equal.symm
        rw [if_neg same]
        simp [apart]

end Casebook.Tree
