import Casebook.Tree.File

/-! How far a tree extends: how deep it is, and how many locations of it a walk has still to
visit. Together they bound every walk.
-/

namespace Casebook.Tree

/-- The length of the longest location that is listed. -/
def height (t : Tree) : Nat :=
  (t.entries.map (·.1.length)).foldr max 0

/-- How many of the listed locations, the top among them, are not in a list. -/
def unvisited (t : Tree) (visited : List Location) : Nat :=
  ([] :: t.entries.map (·.1)).countP fun place => !visited.contains place

/-- What stands below the top is listed. -/
theorem mem_entries_of_get? {t : Tree} {n : Name} {up : Location} {entry : Entry}
    (stands : t.get? (n :: up) = some entry)
    : (n :: up, entry) ∈ t.entries := by
  obtain ⟨listed, first, rfl⟩ := Option.map_eq_some_iff.mp stands
  have key : listed.1 = n :: up := by simpa using List.find?_some first
  rw [← key]
  exact List.mem_of_find?_eq_some first

theorem mem_of_get? {t : Tree} {place : Location} {entry : Entry}
    (h : t.get? place = some entry)
    : place ∈ [] :: t.entries.map (·.1) := by
  cases place with
  | nil => exact List.mem_cons_self
  | cons n up =>
    exact List.mem_cons_of_mem _ (List.mem_map.mpr ⟨_, mem_entries_of_get? h, rfl⟩)

/-- Nothing stands deeper than the height. -/
theorem length_le_height {t : Tree} {place : Location} {entry : Entry}
    (h : t.get? place = some entry)
    : place.length ≤ t.height := by
  have le_foldr : ∀ (xs : List Nat) (x : Nat), x ∈ xs → x ≤ xs.foldr max 0 := by
    intro xs x hx
    induction xs with
    | nil => cases hx
    | cons y ys ih =>
      rw [List.foldr_cons]
      rcases List.mem_cons.mp hx with rfl | hx
      · omega
      · have := ih hx
        omega
  rcases List.mem_cons.mp (mem_of_get? h) with rfl | inList
  · simp
  · obtain ⟨listed, hl, rfl⟩ := List.mem_map.mp inList
    exact le_foldr _ _ (List.mem_map.mpr ⟨listed, hl, rfl⟩)

/-- Visiting one more location leaves no more unvisited. -/
theorem unvisited_cons_le (t : Tree) (place : Location) (visited : List Location)
    : t.unvisited (place :: visited) ≤ t.unvisited visited := by
  unfold unvisited
  refine List.countP_mono_left fun other _ h => ?_
  simp only [List.contains_cons, Bool.not_or, Bool.and_eq_true] at h
  exact h.2

/-- Visiting a new location of the tree leaves fewer unvisited. -/
theorem unvisited_cons_lt {t : Tree} {place : Location} {entry : Entry}
    {visited : List Location} (h : t.get? place = some entry) (isNew : place ∉ visited)
    : t.unvisited (place :: visited) < t.unvisited visited := by
  have count_lt : ∀ places : List Location, place ∈ places →
      places.countP (fun other => !(place :: visited).contains other)
        < places.countP (fun other => !visited.contains other) := by
    intro places hp
    induction places with
    | nil => cases hp
    | cons other rest ih =>
      simp only [List.countP_cons]
      by_cases same : other = place
      · subst same
        have le : rest.countP (fun o => !(other :: visited).contains o)
            ≤ rest.countP (fun o => !visited.contains o) := by
          refine List.countP_mono_left fun o _ ho => ?_
          simp only [List.contains_cons, Bool.not_or, Bool.and_eq_true] at ho
          exact ho.2
        have counted : (!visited.contains other) = true := by simp [isNew]
        have dropped : (!(other :: visited).contains other) = false := by simp
        rw [if_pos counted, dropped]
        simp only [Bool.false_eq_true, if_false]
        omega
      · have inRest : place ∈ rest := by
          rcases List.mem_cons.mp hp with rfl | h
          · exact absurd rfl same
          · exact h
        have lt := ih inRest
        have eq : (!(place :: visited).contains other) = !visited.contains other := by
          simp [same]
        rw [eq]
        omega
  exact count_lt _ (mem_of_get? h)

/-- What a path leads to stands in the tree. -/
theorem get?_of_stat {t : Tree} {path : String} {place : Location} {entry : Entry}
    (h : t.stat path = .ok (place, entry))
    : t.get? place = some entry := by
  unfold stat at h
  cases located : t.locate path with
  | error cause => simp [located, bind, Except.bind] at h
  | ok found =>
    cases found with
    | vacant at_ => simp [located, bind, Except.bind] at h
    | entry at_ =>
      simp only [located, bind, Except.bind] at h
      cases stands : t.get? at_ with
      | none => simp [stands] at h
      | some e =>
        simp only [stands, Except.ok.injEq, Prod.mk.injEq] at h
        rw [← h.1, ← h.2, stands]

/-- The measure of a walk falls when it goes into a directory below, since the way there can only
get so long.
-/
theorem measure_lt_of_deeper {t : Tree} {n : Name} {place : Location} {entry : Entry}
    (h : t.get? (n :: place) = some entry) (visited : List Location)
    : t.unvisited ((n :: place) :: visited) * (t.height + 1) + (t.height - (n :: place).length)
      < t.unvisited visited * (t.height + 1) + (t.height - place.length) := by
  have fits := length_le_height h
  simp only [List.length_cons] at fits ⊢
  have fewer := Nat.mul_le_mul_right (t.height + 1) (t.unvisited_cons_le (n :: place) visited)
  omega

/-- The measure of a walk falls when it goes into a directory that is new on the way, wherever
that directory stands.
-/
theorem measure_lt_of_new {t : Tree} {target place : Location} {entry : Entry}
    {visited : List Location} (h : t.get? target = some entry) (isNew : target ∉ visited)
    : t.unvisited (target :: visited) * (t.height + 1) + (t.height - target.length)
      < t.unvisited visited * (t.height + 1) + (t.height - place.length) := by
  have fewer := Nat.mul_le_mul_right (t.height + 1) (unvisited_cons_lt h isNew)
  rw [Nat.succ_mul] at fewer
  omega

end Casebook.Tree
