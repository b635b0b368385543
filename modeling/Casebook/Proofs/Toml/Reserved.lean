import Casebook.Toml.Reserved

/-! Documents as values. What replacing the tables for dates and times leaves has no such table, and
replacing them again changes nothing. A document without them is the value as it stands.
-/

namespace Casebook.Toml

/-- No table in the value begins with the reserved key, however far down it is. -/
inductive Value.Plain : Value → Prop
  | string (text : String) : (Value.string text).Plain
  | integer (number : Int) : (Value.integer number).Plain
  | float (text : String) : (Value.float text).Plain
  | boolean (flag : Bool) : (Value.boolean flag).Plain
  | dateTime (text : String) : (Value.dateTime text).Plain
  | array {items : List Value} (plain : ∀ item ∈ items, item.Plain) : (Value.array items).Plain
  | table {entries : Table} (ordinary : ∀ entry ∈ entries.head?, entry.1 ≠ momentKey)
    (plain : ∀ entry ∈ entries, entry.2.Plain)
    : (Value.table entries).Plain

-----------------------------------------------------------------------------------------
-- What is left
-----------------------------------------------------------------------------------------

/-- A table that begins with another key is resolved entry by entry. -/
theorem resolve_ordinary {key : String} (ordinary : key ≠ momentKey) (first : Value) (rest : Table)
    : (Value.table ((key, first) :: rest)).resolve
      = (resolveEntries ((key, first) :: rest)).map Value.table := by
  unfold Value.resolve
  rw [if_neg ordinary, resolveEntries]
  cases first.resolve with
  | error fault => rfl
  | ok first => cases resolveEntries rest <;> rfl

theorem resolveItems_cons_eq_ok {item : Value} {rest resolved : List Value}
    (ok : resolveItems (item :: rest) = .ok resolved)
    : ∃ first others,
        item.resolve = .ok first ∧ resolveItems rest = .ok others ∧ resolved = first :: others := by
  rw [resolveItems] at ok
  cases head : item.resolve with
  | error fault => rw [head] at ok; cases ok
  | ok first =>
    cases tail : resolveItems rest with
    | error fault => rw [head, tail] at ok; cases ok
    | ok others => rw [head, tail] at ok; cases ok; exact ⟨first, others, rfl, rfl, rfl⟩

theorem resolveEntries_cons_eq_ok {key : String} {value : Value} {rest resolved : Table}
    (ok : resolveEntries ((key, value) :: rest) = .ok resolved)
    : ∃ first others,
        value.resolve = .ok first
        ∧ resolveEntries rest = .ok others
        ∧ resolved = (key, first) :: others := by
  rw [resolveEntries] at ok
  cases head : value.resolve with
  | error fault => rw [head] at ok; cases ok
  | ok first =>
    cases tail : resolveEntries rest with
    | error fault => rw [head, tail] at ok; cases ok
    | ok others => rw [head, tail] at ok; cases ok; exact ⟨first, others, rfl, rfl, rfl⟩

/-- A table is resolved to a date and time, or to a table of its entries, each resolved for itself.
-/
theorem resolve_table_eq_ok {entries : Table} {resolved : Value}
    (ok : (Value.table entries).resolve = .ok resolved)
    : (∃ text rest,
        entries = (momentKey, .string text) :: rest
        ∧ isMoment text.toList = true
        ∧ resolved = .dateTime text)
      ∨ ∃ left,
          resolveEntries entries = .ok left
          ∧ (∀ entry ∈ left.head?, entry.1 ≠ momentKey)
          ∧ resolved = .table left := by
  match entries with
  | [] => cases ok; exact .inr ⟨[], by rw [resolveEntries], nofun, rfl⟩
  | (key, first) :: rest =>
    by_cases reserved : key = momentKey
    · subst reserved
      cases first with
      | string text =>
        rw [Value.resolve, if_pos rfl] at ok
        split at ok
        next moment => cases ok; exact .inl ⟨text, rest, rfl, moment, rfl⟩
        next => cases ok
      | _ => cases ok
    · rw [resolve_ordinary reserved] at ok
      cases inside : resolveEntries ((key, first) :: rest) with
      | error fault => rw [inside] at ok; cases ok
      | ok left =>
        rw [inside] at ok
        cases ok
        refine .inr ⟨left, rfl, ?_, rfl⟩
        obtain ⟨first, others, -, -, rfl⟩ := resolveEntries_cons_eq_ok inside
        rintro entry ⟨⟩
        exact reserved

-- A value is resolved by resolving its items or entries, so all three are induced on together.
mutual
theorem Value.plain_of_resolve (value : Value) {resolved : Value}
    (ok : value.resolve = .ok resolved)
    : resolved.Plain := by
  cases value with
  | string text => cases ok; exact .string text
  | integer number => cases ok; exact .integer number
  | float text => cases ok; exact .float text
  | boolean flag => cases ok; exact .boolean flag
  | dateTime text => cases ok; exact .dateTime text
  | array items =>
    rw [Value.resolve] at ok
    cases inside : resolveItems items with
    | error fault => rw [inside] at ok; cases ok
    | ok left =>
      rw [inside] at ok
      cases ok
      exact .array (plain_of_resolveItems items inside)
  | table entries =>
    rcases resolve_table_eq_ok ok with ⟨text, -, -, -, rfl⟩ | ⟨left, inside, ordinary, rfl⟩
    · exact .dateTime text
    · exact .table ordinary (plain_of_resolveEntries entries inside)
termination_by sizeOf value

theorem plain_of_resolveItems (items : List Value) {resolved : List Value}
    (ok : resolveItems items = .ok resolved)
    : ∀ item ∈ resolved, item.Plain := by
  match items with
  | [] => cases ok; exact nofun
  | item :: rest =>
    obtain ⟨first, others, head, tail, rfl⟩ := resolveItems_cons_eq_ok ok
    exact List.forall_mem_cons.mpr
      ⟨item.plain_of_resolve head, plain_of_resolveItems rest tail⟩
termination_by sizeOf items

theorem plain_of_resolveEntries (entries : Table) {resolved : Table}
    (ok : resolveEntries entries = .ok resolved)
    : ∀ entry ∈ resolved, entry.2.Plain := by
  match entries with
  | [] => cases ok; exact nofun
  | (key, value) :: rest =>
    obtain ⟨first, others, head, tail, rfl⟩ := resolveEntries_cons_eq_ok ok
    exact List.forall_mem_cons.mpr
      ⟨value.plain_of_resolve head, plain_of_resolveEntries rest tail⟩
termination_by sizeOf entries
end

-----------------------------------------------------------------------------------------
-- What is left alone
-----------------------------------------------------------------------------------------

theorem resolveItems_eq_self {items : List Value} (same : ∀ item ∈ items, item.resolve = .ok item)
    : resolveItems items = .ok items := by
  induction items with
  | nil => rw [resolveItems]
  | cons item rest ih =>
    rw [List.forall_mem_cons] at same
    rw [resolveItems, same.1, ih same.2]
    rfl

theorem resolveEntries_eq_self {entries : Table}
    (same : ∀ entry ∈ entries, entry.2.resolve = .ok entry.2)
    : resolveEntries entries = .ok entries := by
  induction entries with
  | nil => rw [resolveEntries]
  | cons entry rest ih =>
    obtain ⟨key, value⟩ := entry
    rw [List.forall_mem_cons] at same
    rw [resolveEntries, same.1, ih same.2]
    rfl

theorem Value.Plain.resolve_eq {value : Value} (plain : value.Plain)
    : value.resolve = .ok value := by
  induction plain with
  | string | integer | float | boolean | dateTime => rfl
  | array _ same =>
    rw [Value.resolve, resolveItems_eq_self same]
    rfl
  | @table entries ordinary _ same =>
    match entries with
    | [] => rfl
    | (key, first) :: rest =>
      rw [resolve_ordinary (ordinary _ rfl), resolveEntries_eq_self same]
      rfl

/-- Exactly the values without tables for dates and times are left as they are. -/
theorem Value.resolve_eq_self_iff {value : Value}
    : value.resolve = .ok value ↔ value.Plain :=
  ⟨value.plain_of_resolve, Plain.resolve_eq⟩

/-- Resolving what resolving has left changes nothing. -/
theorem Value.resolve_resolve {value resolved : Value} (ok : value.resolve = .ok resolved)
    : resolved.resolve = .ok resolved :=
  (value.plain_of_resolve ok).resolve_eq

-----------------------------------------------------------------------------------------
-- Documents
-----------------------------------------------------------------------------------------

/-- A document with no table for a date and time in it is the value as it stands. -/
theorem Value.ofText_of_plain {text : String} {document : Table}
    (read : Table.ofText text = .ok document) (plain : (Value.table document).Plain)
    : Value.ofText text = .ok (.table document) := by
  rw [ofText, read]
  exact plain.resolve_eq

/-- A text is no value only if it is no document, or the document has a table that begins as one for
a date and time.
-/
theorem Value.ofText_eq_error {text : String} {fault : Fault}
    (refused : Value.ofText text = .error fault)
    : Table.ofText text = .error fault
      ∨ ∃ document, Table.ofText text = .ok document ∧ ¬ (Value.table document).Plain := by
  cases read : Table.ofText text with
  | error other =>
    rw [ofText, read] at refused
    cases refused
    exact .inl rfl
  | ok document =>
    refine .inr ⟨document, rfl, fun plain => ?_⟩
    cases (ofText_of_plain read plain).symm.trans refused

end Casebook.Toml
