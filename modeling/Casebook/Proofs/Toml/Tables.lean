import Casebook.Proofs.Toml.Statements
import Casebook.Toml.Document

/-! Tables that the statements of a document build. A section, which is a header with values below
it, fills the table that its header has opened and leaves the tables around that one alone.
-/

namespace Casebook.Toml

/-- Slots around the table at a path: what edits that table edits it within them. -/
def Surrounds (path : List String) (around : Slots → Slots) : Prop :=
  ∀ (edit : Opening → Slots → Except Fault Slots) (slots : Slots),
    Slots.editAt false edit path .header (around slots) = (edit .header slots).map around

/-- The slots of values. -/
def valueSlots (entries : Table) : Slots :=
  entries.map fun entry => (entry.1, .value entry.2)

variable {key name : String} {before inner : Slots} {opening : Opening}

theorem bind_of_ok {ε α β : Type} {x : Except ε α} {a : α} (ok : x = .ok a)
    (next : α → Except ε β)
    : (x >>= next) = next a := by
  rw [ok]
  rfl

theorem replace_append (absent : before.lookup key = none) (old new : Slot)
    : Slots.replace key new (before ++ [(key, old)]) = before ++ [(key, new)] := by
  have others : ∀ entry ∈ before, entry.1 ≠ key := by
    intro entry member same
    have differs := List.lookup_eq_none_iff.mp absent entry member
    simp [same] at differs
  have unchanged : Slots.replace key new before = before := by
    refine (List.map_congr_left fun entry member => ?_).trans (List.map_id before)
    rw [if_neg (others entry member)]
    rfl
  have last : Slots.replace key new [(key, old)] = [(key, new)] := by
    simp [Slots.replace]
  rw [Slots.replace, List.map_append]
  exact congrArg₂ _ unchanged last

theorem lookup_append_last {α : Type} {entries : List (String × α)}
    (absent : entries.lookup key = none) (last : α)
    : (entries ++ [(key, last)]).lookup key = some last := by
  rw [List.lookup_append, absent]
  simp

theorem editAt_last (absent : before.lookup key = none) (path : List String) (outer : Opening)
    (edit : Opening → Slots → Except Fault Slots)
    : Slots.editAt false edit (key :: path) outer (before ++ [(key, .table opening inner)])
      = (Slots.editAt false edit path opening inner).map
          fun slots => before ++ [(key, .table opening slots)] := by
  rw [Slots.editAt, lookup_append_last absent]
  simp only [Bool.false_and, Bool.false_eq_true, if_false]
  cases Slots.editAt false edit path opening inner with
  | error fault => rfl
  | ok slots => exact congrArg Except.ok (replace_append absent _ _)

theorem surrounds_last (absent : before.lookup key = none)
    : Surrounds [key] fun slots => before ++ [(key, .table .header slots)] := by
  intro edit slots
  exact editAt_last absent [] .header edit

theorem surrounds_nested (absent : before.lookup key = none) (fresh : inner.lookup name = none)
    : Surrounds [key, name]
        fun slots =>
          before ++ [(key, .table opening (inner ++ [(name, .table .header slots)]))] := by
  intro edit slots
  rw [editAt_last absent, editAt_last fresh, Slots.editAt]
  cases edit .header slots <;> rfl

-----------------------------------------------------------------------------------------
-- Headers
-----------------------------------------------------------------------------------------

theorem openAt_new {d : Draft} (absent : d.slots.lookup key = none)
    : d.openAt [key] Slots.openTable
      = .ok { slots := d.slots ++ [(key, .table .header [])], current := [key] } := by
  simp [Draft.openAt, Slots.editAt, Slots.openTable, absent, bind, Except.bind]

theorem openAt_below {d : Draft} (slots : d.slots = before ++ [(key, .table opening inner)])
    (absent : before.lookup key = none) (fresh : inner.lookup name = none)
    : d.openAt [key, name] Slots.openTable
      = .ok
          {
            slots := before ++ [(key, .table opening (inner ++ [(name, .table .header [])]))]
            current := [key, name]
          } := by
  have last : [key, name].getLast? = some name := rfl
  have above : [key, name].dropLast = [key] := rfl
  simp [Draft.openAt, last, above, slots, editAt_last absent, Slots.editAt, Slots.openTable, fresh,
    bind, Except.bind, Except.map]

/-- A header leads through a table that is not there by opening it as well. -/
theorem openAt_passage {d : Draft} (absent : d.slots.lookup key = none)
    : d.openAt [key, name] Slots.openTable
      = .ok
          {
            slots := d.slots ++ [(key, .table .passage [(name, .table .header [])])]
            current := [key, name]
          } := by
  have last : [key, name].getLast? = some name := rfl
  have above : [key, name].dropLast = [key] := rfl
  simp [Draft.openAt, last, above, absent, Slots.editAt, Slots.openTable, bind, Except.bind]

-----------------------------------------------------------------------------------------
-- Sections
-----------------------------------------------------------------------------------------

variable {path : List String} {around : Slots → Slots}

/-- Values under keys that are new are added to the table opened last, by induction on them. -/
theorem Surrounds.foldlM_pairs (surrounds : Surrounds path around) {entries : Table}
    {slots : Slots} (fresh : ∀ entry ∈ entries, slots.lookup entry.1 = none)
    (distinct : (entries.map Prod.fst).Nodup)
    : (entries.map fun entry => Statement.pair [entry.1] entry.2).foldlM Draft.apply
          { slots := around slots, current := path }
      = .ok { slots := around (slots ++ valueSlots entries), current := path } := by
  induction entries generalizing slots with
  | nil => simp [valueSlots, pure, Except.pure]
  | cons entry more ih =>
    simp only [List.mem_cons, forall_eq_or_imp] at fresh
    rw [List.map_cons, List.nodup_cons] at distinct
    have stillFresh
        : ∀ other ∈ more, (slots ++ [(entry.1, Slot.value entry.2)]).lookup other.1 = none := by
      intro other member
      have differs : (other.1 == entry.1) = false := by
        rw [beq_eq_false_iff_ne]
        intro same
        exact distinct.1 (same ▸ List.mem_map_of_mem member)
      rw [List.lookup_append, fresh.2 other member]
      simp [List.lookup_cons, differs]
    have applied
        : Draft.apply { slots := around slots, current := path } (.pair [entry.1] entry.2)
          = .ok { slots := around (slots ++ [(entry.1, .value entry.2)]), current := path } := by
      simp [Draft.apply, surrounds _ slots, Slots.setValueAt, Slots.setValue, fresh.1, bind,
        Except.bind, Except.map]
    rw [List.map_cons, List.foldlM_cons, applied]
    have rest := ih stillFresh distinct.2
    rw [List.append_assoc] at rest
    exact rest

/-- A section fills the table that its header opens. -/
theorem Surrounds.foldlM_section {s : Section} (surrounds : Surrounds s.path around) {d : Draft}
    (opens : d.openAt s.path Slots.openTable = .ok { slots := around [], current := s.path })
    (distinct : (s.entries.map Prod.fst).Nodup)
    : s.statements.foldlM Draft.apply d
      = .ok { slots := around (valueSlots s.entries), current := s.path } := by
  have pairs := surrounds.foldlM_pairs (fun _ _ => List.lookup_nil) distinct
  rw [Section.statements, List.foldlM_cons, Draft.apply, opens]
  exact pairs

section Section

variable {entries : Table} {d : Draft}

theorem foldlM_new (absent : d.slots.lookup key = none) (distinct : (entries.map Prod.fst).Nodup)
    : (Section.mk [key] entries).statements.foldlM Draft.apply d
      = .ok
          {
            slots := d.slots ++ [(key, .table .header (valueSlots entries))]
            current := [key]
          } :=
  Surrounds.foldlM_section (s := .mk [key] entries) (surrounds_last absent) (openAt_new absent)
    distinct

theorem foldlM_below (slots : d.slots = before ++ [(key, .table opening inner)])
    (absent : before.lookup key = none) (fresh : inner.lookup name = none)
    (distinct : (entries.map Prod.fst).Nodup)
    : (Section.mk [key, name] entries).statements.foldlM Draft.apply d
      = .ok
          {
            slots :=
              before
              ++ [(key, .table opening (inner ++ [(name, .table .header (valueSlots entries))]))]
            current := [key, name]
          } :=
  Surrounds.foldlM_section (s := .mk [key, name] entries) (surrounds_nested absent fresh)
    (openAt_below slots absent fresh) distinct

theorem foldlM_passage (absent : d.slots.lookup key = none)
    (distinct : (entries.map Prod.fst).Nodup)
    : (Section.mk [key, name] entries).statements.foldlM Draft.apply d
      = .ok
          {
            slots :=
              d.slots ++ [(key, .table .passage [(name, .table .header (valueSlots entries))])]
            current := [key, name]
          } :=
  have fresh : ([] : Slots).lookup name = none := List.lookup_nil
  Surrounds.foldlM_section (s := .mk [key, name] entries) (surrounds_nested absent fresh)
    (openAt_passage absent) distinct

end Section

-----------------------------------------------------------------------------------------
-- Tables of slots
-----------------------------------------------------------------------------------------

theorem toTable_append (first second : Slots)
    : Slots.toTable (first ++ second) = Slots.toTable first ++ Slots.toTable second := by
  induction first with
  | nil => rfl
  | cons entry more ih => simp [Slots.toTable, ih]

theorem toTable_valueSlots (entries : Table)
    : Slots.toTable (valueSlots entries) = entries := by
  induction entries with
  | nil => rfl
  | cons entry more ih =>
    rw [valueSlots, List.map_cons, Slots.toTable, Slot.toValue]
    exact congrArg _ ih

theorem toTable_concat (slots : Slots) (key : String) (opening : Opening) (entries : Table)
    : Slots.toTable (slots ++ [(key, .table opening (valueSlots entries))])
      = Slots.toTable slots ++ [(key, .table entries)] := by
  rw [toTable_append, Slots.toTable, Slot.toValue, toTable_valueSlots, Slots.toTable]

theorem lookup_valueSlots (entries : Table) (key : String)
    : (valueSlots entries).lookup key = (entries.lookup key).map .value := by
  induction entries with
  | nil => rfl
  | cons entry more ih =>
    rw [valueSlots, List.map_cons, List.lookup_cons, List.lookup_cons]
    cases key == entry.1
    · exact ih
    · rfl

theorem lookup_toTable (slots : Slots) (key : String)
    : (Slots.toTable slots).lookup key = (slots.lookup key).map Slot.toValue := by
  induction slots with
  | nil => rfl
  | cons entry more ih =>
    rw [Slots.toTable, List.lookup_cons, List.lookup_cons]
    cases key == entry.1
    · exact ih
    · rfl

-----------------------------------------------------------------------------------------
-- A table in a table
-----------------------------------------------------------------------------------------

/-- The section of a table and that of one in it build both, where either of them may be missing.
The table around is there as soon as one of them is.
-/
theorem foldlM_nested (key : String) {entries nested : Table}
    (distinct : (entries.map Prod.fst).Nodup) (distinctNested : (nested.map Prod.fst).Nodup)
    (fresh : entries.lookup name = none) (outer inner : Bool)
    : ∃ d : Draft,
        ((if outer then (Section.mk [key] entries).statements else [])
            ++ (if inner then (Section.mk [key, name] nested).statements else [])).foldlM
          Draft.apply {}
          = .ok d
        ∧ Slots.toTable d.slots
          = if outer || inner then
              [(key,
                .table
                  ((if outer then entries else [])
                    ++ (if inner then [(name, .table nested)] else [])))]
            else [] := by
  have opened
      : (Section.mk [key] entries).statements.foldlM Draft.apply {}
        = .ok { slots := [(key, .table .header (valueSlots entries))], current := [key] } :=
    foldlM_new List.lookup_nil distinct
  cases outer with
  | true =>
    cases inner with
    | true =>
      have freshSlots : (valueSlots entries).lookup name = none := by
        rw [lookup_valueSlots, fresh, Option.map_none]
      let open_ : Draft :=
        { slots := [(key, .table .header (valueSlots entries))], current := [key] }
      have slots : open_.slots = [] ++ [(key, .table .header (valueSlots entries))] := rfl
      have below := foldlM_below slots List.lookup_nil freshSlots distinctNested
      refine ⟨_, (List.foldlM_append ..).trans ((bind_of_ok opened _).trans below), ?_⟩
      simp [Slots.toTable, Slot.toValue, toTable_append, toTable_valueSlots]
    | false =>
      have alone : (Section.mk [key] entries).statements ++ [] = _ := List.append_nil _
      refine ⟨_, (congrArg _ alone).trans opened, ?_⟩
      simp [Slots.toTable, Slot.toValue, toTable_valueSlots]
  | false =>
    cases inner with
    | true =>
      refine ⟨_, foldlM_passage List.lookup_nil distinctNested, ?_⟩
      simp [Slots.toTable, Slot.toValue, toTable_valueSlots]
    | false => exact ⟨_, rfl, rfl⟩

end Casebook.Toml
