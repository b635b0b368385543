import Mathlib.Data.Char
import Mathlib.Data.List.Sort
import Casebook.Proofs.Text.ByteOrder
import Casebook.Tree.Basic

/-! The entries right below a directory. Their names are those under which something stands there,
each once and in the order of their bytes, in whatever order the entries are listed.
-/

namespace Casebook.Tree

namespace Name

theorem before_iff {a b : Name}
    : a.before b = true ↔ a.text.toList < b.text.toList :=
  decide_eq_true_iff

/-- A name stands before another if that is another one and does not stand before it. -/
theorem before_of_not_before {a b : Name} (other : a ≠ b) (notBefore : ¬ a.before b = true)
    : b.before a = true := by
  rw [before_iff] at notBefore ⊢
  rcases lt_trichotomy a.text.toList b.text.toList with earlier | same | later
  · exact absurd earlier notBefore
  · cases a
    cases b
    cases String.toList_injective same
    exact absurd rfl other
  · exact later

theorem before_trans {a b c : Name} (first : a.before b = true) (second : b.before c = true)
    : a.before c = true := by
  rw [before_iff] at first second ⊢
  exact lt_trans first second

theorem mem_insertSorted {n m : Name} {names : List Name}
    : m ∈ insertSorted n names ↔ m = n ∨ m ∈ names := by
  induction names with
  | nil => simp [insertSorted]
  | cons first rest ih =>
    unfold insertSorted
    split
    next same => simp [same]
    next =>
      split
      next => simp
      next =>
        rw [List.mem_cons, ih, List.mem_cons]
        exact or_left_comm

/-- A name that is put into a list in order leaves it in order, by induction on the list. -/
theorem pairwise_insertSorted {n : Name} {names : List Name}
    (ordered : names.Pairwise fun a b => a.before b = true)
    : (insertSorted n names).Pairwise fun a b => a.before b = true := by
  induction names with
  | nil => exact List.pairwise_singleton _ n
  | cons first rest ih =>
    obtain ⟨least, behind⟩ := List.pairwise_cons.mp ordered
    unfold insertSorted
    split
    next => exact ordered
    next other =>
      split
      next earlier =>
        refine List.pairwise_cons.mpr ⟨fun m member => ?_, ordered⟩
        rcases List.mem_cons.mp member with rfl | later
        · exact earlier
        · exact before_trans earlier (least m later)
      next notEarlier =>
        refine List.pairwise_cons.mpr ⟨fun m member => ?_, ih behind⟩
        rcases mem_insertSorted.mp member with rfl | later
        · exact before_of_not_before other notEarlier
        · exact least m later

theorem mem_sorted {n : Name} {names : List Name}
    : n ∈ sorted names ↔ n ∈ names := by
  induction names with
  | nil => rfl
  | cons first rest ih =>
    rw [List.mem_cons, ← ih]
    exact mem_insertSorted

theorem pairwise_sorted (names : List Name)
    : (sorted names).Pairwise fun a b => a.before b = true := by
  induction names with
  | nil => exact List.Pairwise.nil
  | cons first rest ih => exact pairwise_insertSorted ih

/-- Names in the order of their bytes are known by their members. -/
theorem eq_of_pairwise_bytes {names names' : List Name}
    (ordered : names.Pairwise fun a b => Text.bytes a.text < Text.bytes b.text)
    (ordered' : names'.Pairwise fun a b => Text.bytes a.text < Text.bytes b.text)
    (same : ∀ n, n ∈ names ↔ n ∈ names')
    : names = names' := by
  have : Std.Irrefl fun a b : Name => Text.bytes a.text < Text.bytes b.text :=
    ⟨fun n => List.lt_irrefl (Text.bytes n.text)⟩
  have : Std.Antisymm fun a b : Name => Text.bytes a.text < Text.bytes b.text :=
    ⟨fun a b earlier later => absurd later (List.lt_asymm earlier)⟩
  exact ordered.eq_of_mem_iff ordered' fun n => same n

end Name

/-- An entry is right below a location if its own is that location and one name. -/
theorem childName?_eq_some_iff {place listed : Location} {n : Name}
    : childName? place listed = some n ↔ listed = n :: place := by
  cases listed with
  | nil => simp [childName?]
  | cons m up =>
    rw [childName?, List.cons.injEq]
    split
    next here => simp [here]
    next elsewhere => simp [elsewhere]

/-- The names right below a location are those under which something stands. -/
theorem mem_children_iff {t : Tree} {place : Location} {n : Name}
    : n ∈ t.children place ↔ ∃ entry, t.get? (n :: place) = some entry := by
  rw [children, Name.mem_sorted, List.mem_filterMap, get?]
  constructor
  · rintro ⟨listed, member, named⟩
    have here : listed.1 = n :: place := childName?_eq_some_iff.mp named
    cases found : t.entries.find? (·.1 = n :: place) with
    | none => exact absurd (decide_eq_true here) (List.find?_eq_none.mp found listed member)
    | some first => exact ⟨first.2, rfl⟩
  · rintro ⟨entry, stands⟩
    obtain ⟨listed, found, -⟩ := Option.map_eq_some_iff.mp stands
    have here : listed.1 = n :: place := by simpa using List.find?_some found
    exact ⟨listed, List.mem_of_find?_eq_some found, childName?_eq_some_iff.mpr here⟩

/-- The names right below a location come in the order of their bytes. -/
theorem pairwise_children (t : Tree) (place : Location)
    : (t.children place).Pairwise fun a b => Text.bytes a.text < Text.bytes b.text :=
  (Name.pairwise_sorted _).imp fun before => Text.bytes_lt (Name.before_iff.mp before)

end Casebook.Tree
