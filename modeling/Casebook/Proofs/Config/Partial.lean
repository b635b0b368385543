import Casebook.Config.Document
import Casebook.Proofs.Toml.Tables

/-! Settings in a document that says only some of them. What a table does not hold, whether its key
is missing or the table itself is, has its default.
-/

namespace Casebook

open Toml

/-- The key at a path is there, and so is the table that it is in. -/
def keeps (kept : List String → Bool) (path : List String) (key : String) : Bool :=
  kept path && kept (path ++ [key])

/-- The marker with defaults for what is not kept of it. -/
def Marker.leave (kept : String → Bool) (m : Marker) : Marker :=
  let start : Marker := {}
  {
    lead := if kept "prefix" then m.lead else start.lead
    openBracket := if kept "open_bracket" then m.openBracket else start.openBracket
    closeBracket := if kept "close_bracket" then m.closeBracket else start.closeBracket
    tail := if kept "terminator" then m.tail else start.tail
  }

/-- The settings with defaults for what is not kept of them. The marker is a table of its own. -/
def ScanSettings.leave (kept : String → Bool) (s : ScanSettings) : ScanSettings :=
  let start : ScanSettings := {}
  {
    extensions := if kept "extensions" then s.extensions else start.extensions
    excludeDirs := if kept "exclude_dirs" then s.excludeDirs else start.excludeDirs
    excludePatterns := if kept "exclude_patterns" then s.excludePatterns else start.excludePatterns
    maxDepth := if kept "max_depth" then s.maxDepth else start.maxDepth
    followLinks := if kept "follow_links" then s.followLinks else start.followLinks
    skipUnreadable := if kept "skip_unreadable" then s.skipUnreadable else start.skipUnreadable
    strict := if kept "strict" then s.strict else start.strict
    marker := s.marker
  }

/-- The settings with defaults for what is not kept of them. -/
def OutputSettings.leave (kept : String → Bool) (o : OutputSettings) : OutputSettings :=
  let start : OutputSettings := {}
  {
    directory := if kept "directory" then o.directory else start.directory
    stem := if kept "stem" then o.stem else start.stem
    extension := if kept "extension" then o.extension else start.extension
    startIndex := if kept "start_index" then o.startIndex else start.startIndex
    overwrite := if kept "overwrite" then o.overwrite else start.overwrite
  }

/-- The settings with defaults for the tables and keys that are not kept of their document. -/
def Config.leave (kept : List String → Bool) (c : Config) : Config where
  scan :=
    { c.scan.leave (keeps kept ["scan"]) with
      marker := c.scan.marker.leave (keeps kept ["scan", "syntax"]) }
  output := c.output.leave (keeps kept ["output"])

-----------------------------------------------------------------------------------------
-- Fields
-----------------------------------------------------------------------------------------

section Fields

variable {α : Type} {entries : Table} {name : String} {position : Nat}
  {decode : Value → Except Fault α} {value default : α}

theorem lookup_filter {β : Type} (entries : List (String × β)) (kept : String → Bool)
    (name : String)
    : (entries.filter fun entry => kept entry.1).lookup name
      = if kept name then entries.lookup name else none := by
  induction entries with
  | nil => simp
  | cons entry more ih =>
    rw [List.filter_cons, List.lookup_cons]
    cases same : name == entry.1 with
    | true =>
      rw [← eq_of_beq same]
      split
      next => rw [List.lookup_cons, same]
      next dropped => rw [ih, if_neg dropped]
    | false =>
      split
      next => rw [List.lookup_cons, same, ih]
      next => exact ih

theorem field_filter (kept : String → Bool)
    (read : (Value.table entries).field name position decode default = .ok value)
    : (Value.table (entries.filter fun entry => kept entry.1)).field name position decode default
      = .ok (if kept name then value else default) := by
  have looked : (Value.table (entries.filter fun entry => kept entry.1)).field? name position
      = if kept name then (Value.table entries).field? name position else none :=
    lookup_filter entries kept name
  rw [Value.field, looked]
  cases kept name with
  | true => exact read
  | false => rfl

theorem field_append_left {other : Table} (absent : other.lookup name = none)
    : (Value.table (entries ++ other)).field name position decode default
      = (Value.table entries).field name position decode default := by
  have looked
      : (Value.table (entries ++ other)).field? name position
        = (Value.table entries).field? name position := by
    rw [Value.field?, Value.field?, List.lookup_append, absent, Option.or_none]
  rw [Value.field, looked, Value.field]

theorem field_append_right {other : Table} (absent : entries.lookup name = none)
    : (Value.table (entries ++ other)).field name position decode default
      = (Value.table other).field name position decode default := by
  have looked
      : (Value.table (entries ++ other)).field? name position
        = (Value.table other).field? name position := by
    rw [Value.field?, Value.field?, List.lookup_append, absent, Option.none_or]
  rw [Value.field, looked, Value.field]

end Fields

theorem asTexts_textsValue (texts : List String)
    : (ScanSettings.textsValue texts).asTexts = .ok texts := by
  induction texts with
  | nil => rfl
  | cons text more ih =>
    rw [ScanSettings.textsValue, Value.asTexts] at ih ⊢
    rw [List.map_cons, List.mapM_cons, ih]
    rfl

theorem asChar_string (c : Char)
    : (Value.string c.toString).asChar = .ok c := by
  simp [Value.asChar]

theorem Marker.ofRecord_filter (m : Marker) (kept : String → Bool)
    : Marker.ofRecord (.table (m.toDocument.filter fun entry => kept entry.1))
      = .ok (m.leave kept) := by
  let start : Marker := {}
  let whole : Value := .table m.toDocument
  have lead : whole.field "prefix" 0 Value.asText start.lead = .ok m.lead := rfl
  have openBracket
      : whole.field "open_bracket" 1 Value.asChar start.openBracket = .ok m.openBracket :=
    asChar_string m.openBracket
  have closeBracket
      : whole.field "close_bracket" 2 Value.asChar start.closeBracket = .ok m.closeBracket :=
    asChar_string m.closeBracket
  have tail : whole.field "terminator" 3 Value.asText start.tail = .ok m.tail := rfl
  refine (bind_of_ok (field_filter kept lead) _).trans ?_
  refine (bind_of_ok (field_filter kept openBracket) _).trans ?_
  refine (bind_of_ok (field_filter kept closeBracket) _).trans ?_
  exact bind_of_ok (field_filter kept tail) _

theorem OutputSettings.ofRecord_filter (o : OutputSettings) (kept : String → Bool)
    : OutputSettings.ofRecord (.table (o.toDocument.filter fun entry => kept entry.1))
      = .ok (o.leave kept) := by
  let start : OutputSettings := {}
  let whole : Value := .table o.toDocument
  have directory : whole.field "directory" 0 Value.asText start.directory = .ok o.directory := rfl
  have stem : whole.field "stem" 1 Value.asText start.stem = .ok o.stem := rfl
  have extension : whole.field "extension" 2 Value.asText start.extension = .ok o.extension := rfl
  have startIndex : whole.field "start_index" 3 Value.asCount start.startIndex = .ok o.startIndex :=
    rfl
  have overwrite : whole.field "overwrite" 4 Value.asFlag start.overwrite = .ok o.overwrite := rfl
  refine (bind_of_ok (field_filter kept directory) _).trans ?_
  refine (bind_of_ok (field_filter kept stem) _).trans ?_
  refine (bind_of_ok (field_filter kept extension) _).trans ?_
  refine (bind_of_ok (field_filter kept startIndex) _).trans ?_
  exact bind_of_ok (field_filter kept overwrite) _

/-- The values of the settings of a scan, without the table of the marker. -/
def ScanSettings.values (s : ScanSettings) : Table :=
  s.toDocument.filter fun entry => entry.1 ≠ "syntax"

theorem ScanSettings.lookup_values (s : ScanSettings)
    : s.values.lookup "syntax" = none :=
  lookup_filter s.toDocument (fun name => name ≠ "syntax") "syntax"

theorem ScanSettings.ofRecord_append (s : ScanSettings) (kept : String → Bool) {markers : Table}
    {m : Marker} (others : ∀ name, name ≠ "syntax" → markers.lookup name = none)
    (read : (Value.table markers).field "syntax" 7 (Value.asRecord Marker.ofRecord) {} = .ok m)
    : ScanSettings.ofRecord
          (.table ((s.values.filter fun entry => kept entry.1) ++ markers))
      = .ok { s.leave kept with marker := m } := by
  let start : ScanSettings := {}
  let whole : Value := .table s.values
  have extensions : whole.field "extensions" 0 Value.asTexts start.extensions = .ok s.extensions :=
    asTexts_textsValue s.extensions
  have excludeDirs
      : whole.field "exclude_dirs" 1 Value.asTexts start.excludeDirs = .ok s.excludeDirs :=
    asTexts_textsValue s.excludeDirs
  have excludePatterns
      : whole.field "exclude_patterns" 2 Value.asTexts start.excludePatterns
        = .ok s.excludePatterns :=
    asTexts_textsValue s.excludePatterns
  -- These come at or behind the depth, which is there only if it is limited.
  obtain ⟨maxDepth, followLinks, skipUnreadable, strict⟩
      : whole.field "max_depth" 3 (fun depth => depth.asCount.map some) start.maxDepth
            = .ok s.maxDepth
        ∧ whole.field "follow_links" 4 Value.asFlag start.followLinks = .ok s.followLinks
        ∧ whole.field "skip_unreadable" 5 Value.asFlag start.skipUnreadable = .ok s.skipUnreadable
        ∧ whole.field "strict" 6 Value.asFlag start.strict = .ok s.strict := by
    obtain ⟨_, _, _, depth, _, _, _, _⟩ := s
    cases depth <;> exact ⟨rfl, rfl, rfl, rfl⟩
  have own {α : Type} {name : String} {position : Nat} {decode : Value → Except Fault α}
      {value default : α} (other : name ≠ "syntax")
      (read : whole.field name position decode default = .ok value) :=
    (field_append_left (others name other)).trans (field_filter kept read)
  have absent : (s.values.filter fun entry => kept entry.1).lookup "syntax" = none := by
    rw [lookup_filter, s.lookup_values, ite_self]
  refine (bind_of_ok (own (by decide) extensions) _).trans ?_
  refine (bind_of_ok (own (by decide) excludeDirs) _).trans ?_
  refine (bind_of_ok (own (by decide) excludePatterns) _).trans ?_
  refine (bind_of_ok (own (by decide) maxDepth) _).trans ?_
  refine (bind_of_ok (own (by decide) followLinks) _).trans ?_
  refine (bind_of_ok (own (by decide) skipUnreadable) _).trans ?_
  refine (bind_of_ok (own (by decide) strict) _).trans ?_
  exact bind_of_ok ((field_append_right absent).trans read) _

-----------------------------------------------------------------------------------------
-- Sections
-----------------------------------------------------------------------------------------

/-- The sections of the settings of a scan. -/
def ScanSettings.sections (s : ScanSettings) : List Section :=
  [{ path := ["scan"], entries := s.values },
    { path := ["scan", "syntax"], entries := s.marker.toDocument }]

/-- The sections of the document of some settings. -/
def Config.sections (c : Config) : List Section :=
  c.scan.sections ++ [{ path := ["output"], entries := c.output.toDocument }]

theorem ScanSettings.nodup_values (s : ScanSettings)
    : (s.values.map Prod.fst).Nodup := by
  obtain ⟨_, _, _, depth, _, _, _, _⟩ := s
  cases depth <;> simp [values, toDocument]

theorem nodup_filter {entries : Table} (distinct : (entries.map Prod.fst).Nodup)
    (kept : String × Value → Bool)
    : ((entries.filter kept).map Prod.fst).Nodup :=
  distinct.sublist (List.filter_sublist.map _)

section Keeps

variable {kept : List String → Bool} {path : List String}

theorem keeps_of_kept (whole : kept path = true)
    : keeps kept path = fun key => kept (path ++ [key]) := by
  funext key
  rw [keeps, whole, Bool.true_and]

theorem keeps_of_not_kept (gone : ¬kept path = true)
    : keeps kept path = fun _ => false := by
  funext key
  rw [keeps, Bool.eq_false_iff.mpr gone, Bool.false_and]

theorem filter_keeps (entries : Table)
    : (entries.filter fun entry => keeps kept path entry.1)
      = if kept path then entries.filter fun entry => kept (path ++ [entry.1]) else [] := by
  split
  next whole => rw [keeps_of_kept whole]
  next gone => simp [keeps_of_not_kept gone]

end Keeps

/-- The entry of the table of the marker, if that is kept. -/
def Marker.left (kept : List String → Bool) (m : Marker) : Table :=
  let entries := m.toDocument.filter fun entry => kept ["scan", "syntax", entry.1]
  if kept ["scan", "syntax"] then [("syntax", .table entries)] else []

theorem ScanSettings.ofRecord_leave (s : ScanSettings) (kept : List String → Bool)
    : ScanSettings.ofRecord
          (.table
            ((s.values.filter fun entry => keeps kept ["scan"] entry.1) ++ s.marker.left kept))
      = .ok
          { s.leave (keeps kept ["scan"]) with
            marker := s.marker.leave (keeps kept ["scan", "syntax"]) } := by
  refine s.ofRecord_append _ ?_ ?_
  · intro name other
    unfold Marker.left
    split
    · simp [List.lookup_cons, beq_eq_false_iff_ne.mpr other]
    · rfl
  · unfold Marker.left
    split
    next whole =>
      rw [keeps_of_kept whole]
      exact s.marker.ofRecord_filter fun key => kept ["scan", "syntax", key]
    next gone =>
      rw [keeps_of_not_kept gone]
      rfl

/-- What is left of the sections of a scan is built into a document with nothing else in it, from
which the settings that are left are read.
-/
theorem ScanSettings.foldlM_leaveAll (s : ScanSettings) (kept : List String → Bool)
    : ∃ d : Draft,
        ((Section.leaveAll kept s.sections).flatMap Section.statements).foldlM Draft.apply {}
          = .ok d
        ∧ d.slots.lookup "output" = none
        ∧ (Value.table (Slots.toTable d.slots)).field "scan" 0
            (Value.asRecord ScanSettings.ofRecord) {}
          = .ok
              { s.leave (keeps kept ["scan"]) with
                marker := s.marker.leave (keeps kept ["scan", "syntax"]) } := by
  have distinct := nodup_filter s.nodup_values fun entry => kept ["scan", entry.1]
  have distinctMarker : (s.marker.toDocument.map Prod.fst).Nodup := by
    simp [Marker.toDocument]
  have distinctLeft := nodup_filter distinctMarker fun entry => kept ["scan", "syntax", entry.1]
  have fresh : (s.values.filter fun entry => kept ["scan", entry.1]).lookup "syntax" = none := by
    rw [lookup_filter s.values fun key => kept ["scan", key], s.lookup_values, ite_self]
  obtain ⟨d, built, table⟩ :=
    foldlM_nested "scan" distinct distinctLeft fresh (kept ["scan"]) (kept ["scan", "syntax"])
  have settings := s.ofRecord_leave kept
  rw [filter_keeps] at settings
  refine ⟨d, ?_, ?_, ?_⟩
  · rw [ScanSettings.sections, Section.statements_leaveAll_cons, Section.statements_leaveAll_cons,
      Section.statements_leaveAll_nil, List.append_nil]
    exact built
  · have looked := lookup_toTable d.slots "output"
    rw [table] at looked
    split at looked
    · exact Option.map_eq_none_iff.mp looked.symm
    · exact Option.map_eq_none_iff.mp looked.symm
  · rw [table]
    split
    · exact settings
    next gone =>
      rw [Bool.or_eq_true, not_or] at gone
      rw [keeps_of_not_kept gone.1, keeps_of_not_kept gone.2]
      rfl

/-- What is left of the sections of some settings is a document from which the settings that are
left are read.
-/
theorem Config.ofDocument_leaveAll (c : Config) (kept : List String → Bool)
    : ∃ d : Draft,
        ((Section.leaveAll kept c.sections).flatMap Section.statements).foldlM Draft.apply {}
          = .ok d
        ∧ ofDocument (Slots.toTable d.slots) = .ok (c.leave kept) := by
  obtain ⟨d, built, absent, scan⟩ := c.scan.foldlM_leaveAll kept
  have table : (Slots.toTable d.slots).lookup "output" = none := by
    rw [lookup_toTable, absent, Option.map_none]
  rw [sections, Section.leaveAll_append, List.flatMap_append, Section.statements_leaveAll_cons,
    Section.statements_leaveAll_nil, List.append_nil]
  cases whole : kept ["output"] with
  | true =>
    have distinct : (c.output.toDocument.map Prod.fst).Nodup := by
      simp [OutputSettings.toDocument]
    have last :=
      foldlM_new absent (nodup_filter distinct fun entry => kept ["output", entry.1])
    refine ⟨_, (List.foldlM_append ..).trans ((bind_of_ok built _).trans last), ?_⟩
    let entries := c.output.toDocument.filter fun entry => kept ["output", entry.1]
    have output
        : (Value.table [("output", .table entries)]).field "output" 1
            (Value.asRecord OutputSettings.ofRecord) {}
          = .ok (c.output.leave (keeps kept ["output"])) := by
      rw [keeps_of_kept whole]
      exact c.output.ofRecord_filter fun key => kept ["output", key]
    rw [toTable_concat]
    refine (bind_of_ok ((field_append_left rfl).trans scan) _).trans ?_
    exact bind_of_ok ((field_append_right table).trans output) _
  | false =>
    have output
        : (Value.table (Slots.toTable d.slots)).field "output" 1
            (Value.asRecord OutputSettings.ofRecord) {}
          = .ok (c.output.leave (keeps kept ["output"])) := by
      rw [Value.field, Value.field?, table, keeps_of_not_kept (Bool.eq_false_iff.mp whole)]
      rfl
    refine ⟨d, (congrArg _ (List.append_nil _)).trans built, ?_⟩
    refine (bind_of_ok scan _).trans ?_
    exact bind_of_ok output _

end Casebook
