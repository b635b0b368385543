import Casebook.Proofs.Toml.Values
import Casebook.Toml.Document

/-! Statements that are written and read again. A text may say them with empty lines anywhere
between them, so a document of which some are left out is read as those that are left.
-/

namespace Casebook.Toml

/-- A key that needs no quotes. -/
def IsBareKey (key : String) : Prop :=
  key.toList ≠ [] ∧ ∀ c ∈ key.toList, isBare c = true

-- Only the characters of the key are tried, not all that there are.
instance (key : String) : Decidable (IsBareKey key) :=
  decidable_of_iff (key.toList ≠ [] ∧ key.toList.all isBare = true)
    (and_congr_right fun _ => List.all_eq_true)

/-- A text says statements: each as it is written, on lines of its own. -/
inductive Says : List Statement → List Char → Prop
  | done : Says [] []
  | blank {statements text} (below : Says statements text) : Says statements ('\n' :: text)
  | header {path statements text} (below : Says statements text)
    : Says (.tableHeader path :: statements) (renderHeader path ++ text)
  | pair {key value statements text} (below : Says statements text)
    : Says (.pair [key] value :: statements)
        (keyText key ++ " = ".toList ++ value.render ++ '\n' :: text)

/-- A statement that can be read again. -/
def Statement.IsStorable : Statement → Prop
  | .tableHeader path => path ≠ [] ∧ path.length ≤ maxDepth ∧ ∀ key ∈ path, IsBareKey key
  | .pair key value => (∃ name, key = [name] ∧ IsBareKey name) ∧ Storable maxDepth value
  | .rowHeader _ => False

/-- A part of a document: the header of a table, and its values. -/
structure Section where
  path : List String
  entries : Table

namespace Section

/-- The section as a document says it. -/
def statements (s : Section) : List Statement :=
  .tableHeader s.path :: s.entries.map fun entry => .pair [entry.1] entry.2

/-- The section as it is written. -/
def text (s : Section) : List Char :=
  renderHeader s.path ++ renderValues s.entries

/-- What is left of the section without the keys that are not kept. -/
def leave (kept : List String → Bool) (s : Section) : Section :=
  { s with entries := s.entries.filter fun entry => kept (s.path ++ [entry.1]) }

/-- What is left of some sections without the tables and keys that are not kept. -/
def leaveAll (kept : List String → Bool) (sections : List Section) : List Section :=
  (sections.filter (kept ·.path)).map (leave kept)

/-- A section that can be read again. -/
def IsStorable (s : Section) : Prop :=
  (s.path ≠ [] ∧ s.path.length ≤ maxDepth ∧ ∀ key ∈ s.path, IsBareKey key)
  ∧ ∀ entry ∈ s.entries, IsBareKey entry.1 ∧ Storable maxDepth entry.2

end Section

-----------------------------------------------------------------------------------------
-- Keys
-----------------------------------------------------------------------------------------

theorem IsBareKey.keyText {key : String} (bare : IsBareKey key)
    : keyText key = key.toList := by
  have nonempty : key.isEmpty = false := by
    rw [Bool.eq_false_iff, ne_eq, String.isEmpty_iff, ← String.toList_eq_nil_iff]
    exact bare.1
  rw [Toml.keyText, nonempty, List.all_eq_true.mpr bare.2]
  rfl

theorem isSpace_eq_false_of_isBare {c : Char} (bare : isBare c = true)
    : isSpace c = false := by
  rw [isSpace, Bool.or_eq_false_iff, decide_eq_false_iff_not, decide_eq_false_iff_not]
  constructor
  · rintro rfl; cases bare
  · rintro rfl; cases bare

theorem readSimpleKey_append {key : String} (bare : IsBareKey key) {d : Char}
    (ends : isBare d = false) (rest : List Char)
    : readSimpleKey (key.toList ++ d :: rest) = .ok (key, d :: rest) := by
  obtain ⟨nonempty, all⟩ := bare
  cases chars : key.toList with
  | nil => exact absurd chars nonempty
  | cons c more =>
    rw [chars] at all
    simp only [List.mem_cons, forall_eq_or_imp] at all
    have kept : (more ++ d :: rest).takeWhile isBare = more := by
      rw [List.takeWhile_append_of_pos all.2, List.takeWhile_cons_of_neg (by simp [ends]),
        List.append_nil]
    have left : (more ++ d :: rest).dropWhile isBare = d :: rest := by
      rw [List.dropWhile_append_of_pos all.2, List.dropWhile_cons_of_neg (by simp [ends])]
    rw [List.cons_append, readSimpleKey, if_pos all.1, kept, left, ← chars, String.ofList_toList]
    · rintro rfl; simp [isBare] at all
    · rintro rfl; simp [isBare] at all

theorem IsBareKey.begins {key : String} (bare : IsBareKey key)
    : ∃ c more, key.toList = c :: more ∧ isBare c = true := by
  obtain ⟨c, more, chars⟩ := List.exists_cons_of_ne_nil bare.1
  exact ⟨c, more, chars, bare.2 c (chars ▸ List.mem_cons_self)⟩

theorem IsBareKey.skipSpaces {key : String} (bare : IsBareKey key) (rest : List Char)
    : skipSpaces (key.toList ++ rest) = key.toList ++ rest := by
  obtain ⟨c, more, chars, isBare⟩ := bare.begins
  rw [chars]
  exact List.dropWhile_cons_of_neg (by simp [isSpace_eq_false_of_isBare isBare])

/-- The keys of a path are read with the dots between them, by induction on the path. -/
theorem readKeyParts_append {path : List String} (some_ : path ≠ [])
    (bare : ∀ key ∈ path, IsBareKey key) {limit : Nat} (within : path.length ≤ limit) {d : Char}
    (ends : isBare d = false) {rest : List Char}
    (last : (skipSpaces (d :: rest)).head? ≠ some '.')
    : readKeyParts limit (List.intercalate ['.'] (path.map keyText) ++ d :: rest)
      = .ok (path, skipSpaces (d :: rest)) := by
  induction path generalizing limit with
  | nil => exact absurd rfl some_
  | cons key more ih =>
    have room : limit ≠ 0 := by
      rintro rfl
      cases within
    obtain ⟨limit, rfl⟩ := Nat.exists_eq_succ_of_ne_zero room
    simp only [List.mem_cons, forall_eq_or_imp] at bare
    cases more with
    | nil =>
      rw [List.map_singleton, List.intercalate_singleton, bare.1.keyText, readKeyParts,
        bare.1.skipSpaces, readSimpleKey_append bare.1 ends]
      simp only [bind, Except.bind]
      split
      next same => simp [same] at last
      next => rfl
    | cons next more =>
      have ih := ih nofun bare.2 (Nat.le_of_succ_le_succ within)
      have dot (text : List Char) : skipSpaces ('.' :: text) = '.' :: text := rfl
      rw [List.map_cons, List.map_cons, List.intercalate_cons_cons, bare.1.keyText,
        List.append_assoc, List.append_assoc, List.singleton_append, readKeyParts,
        bare.1.skipSpaces, readSimpleKey_append bare.1 rfl]
      rw [List.map_cons] at ih
      simp only [bind, Except.bind, dot, ih]

-----------------------------------------------------------------------------------------
-- Lines
-----------------------------------------------------------------------------------------

theorem startsValue_of_isBare {c : Char} (bare : isBare c = true)
    : StartsValue c := by
  refine ⟨isSpace_eq_false_of_isBare bare, ?_, ?_, ?_, ?_⟩
  all_goals rintro rfl; cases bare

theorem read_renderHeader {path : List String} (storable : (Statement.tableHeader path).IsStorable)
    (text : List Char)
    : Statement.read (renderHeader path ++ text) = .ok (.tableHeader path, text) := by
  obtain ⟨some_, within, bare⟩ := storable
  have key : readKey (List.intercalate ['.'] (path.map keyText) ++ ']' :: '\n' :: text)
      = .ok (path, ']' :: '\n' :: text) :=
    readKeyParts_append some_ bare within rfl nofun
  have noRow
      : (List.intercalate ['.'] (path.map keyText) ++ ']' :: '\n' :: text).head? ≠ some '[' := by
    obtain ⟨first, more, rfl⟩ := List.exists_cons_of_ne_nil some_
    have isKey := bare first List.mem_cons_self
    obtain ⟨c, tail, chars, isBare⟩ := isKey.begins
    have notBracket : c ≠ '[' := by rintro rfl; cases isBare
    cases more <;> simp [List.intercalate_cons_cons, isKey.keyText, chars, notBracket]
  have written
      : renderHeader path ++ text
        = '[' :: (List.intercalate ['.'] (path.map keyText) ++ ']' :: '\n' :: text) := by
    simp [renderHeader]
  rw [written, Statement.read]
  unfold Statement.readHeader
  split
  next same => simp [same] at noRow
  next => simp only [key, bind, Except.bind]; rfl

theorem read_pair {key : String} {value : Value} (bare : IsBareKey key)
    (storable : Storable maxDepth value) (text : List Char)
    : Statement.read (keyText key ++ " = ".toList ++ value.render ++ '\n' :: text)
      = .ok (.pair [key] value, text) := by
  obtain ⟨c, more, chars, isBare⟩ := bare.begins
  obtain ⟨d, tail, begins, starts⟩ := storable.starts
  have written
      : keyText key ++ " = ".toList ++ value.render ++ '\n' :: text
        = key.toList ++ ' ' :: '=' :: ' ' :: (value.render ++ '\n' :: text) := by
    simp [bare.keyText]
  have readsKey
      : readKey (key.toList ++ ' ' :: '=' :: ' ' :: (value.render ++ '\n' :: text))
        = .ok ([key], '=' :: ' ' :: (value.render ++ '\n' :: text)) := by
    have parts
        : readKeyParts maxDepth
            (List.intercalate ['.'] ([key].map keyText)
              ++ ' ' :: '=' :: ' ' :: (value.render ++ '\n' :: text))
          = .ok ([key], '=' :: ' ' :: (value.render ++ '\n' :: text)) :=
      readKeyParts_append (List.cons_ne_nil key []) (by simpa using bare) (Nat.le_add_left 1 78)
        rfl nofun
    rwa [List.map_singleton, List.intercalate_singleton, bare.keyText] at parts
  have readsValue
      : readValue (skipSpaces (' ' :: (value.render ++ '\n' :: text)))
        = .ok (value, '\n' :: text) := by
    have space
        : skipSpaces (' ' :: (value.render ++ '\n' :: text)) = value.render ++ '\n' :: text :=
      begins ▸ skipSpaces_of_starts starts (tail ++ '\n' :: text)
    rw [space]
    exact storable.reads ⟨'\n', text, rfl, .inl rfl⟩
  have noHeader : c ≠ '[' := by rintro rfl; cases isBare
  rw [written, chars, List.cons_append]
  rw [chars, List.cons_append] at readsKey
  rw [Statement.read]
  · simp only [readPair, readsKey, readsValue, bind, Except.bind]
    rfl
  · rintro _ same
    exact noHeader (List.cons.inj same).1

-----------------------------------------------------------------------------------------
-- Texts
-----------------------------------------------------------------------------------------

theorem readAll_append {statement : Statement} {written text : List Char}
    (begins : ∃ c more, written = c :: more ∧ StartsValue c)
    (reads : Statement.read (written ++ text) = .ok (statement, text)) (fuel : Nat)
    : Statement.readAll (fuel + 1) (written ++ text)
      = (Statement.readAll fuel text).map (statement :: ·) := by
  obtain ⟨c, more, rfl, starts⟩ := begins
  have other : ¬(c = '#' ∨ c = '\n' ∨ c = '\r') := by
    obtain ⟨-, noFeed, noReturn, noComment, -⟩ := starts
    rintro (same | same | same)
    · exact noComment same
    · exact noFeed same
    · exact noReturn same
  rw [List.cons_append] at reads ⊢
  rw [Statement.readAll, skipSpaces_of_starts starts]
  simp only [if_neg other, reads, bind, Except.bind]
  cases Statement.readAll fuel text <;> rfl

/-- A text is read as the statements that it says, one line after the other. -/
theorem Says.readAll {statements : List Statement} {text : List Char}
    (said : Says statements text) (storable : ∀ s ∈ statements, s.IsStorable) {fuel : Nat}
    (fuelled : text.length < fuel)
    : Statement.readAll fuel text = .ok statements := by
  induction said generalizing fuel with
  | done =>
    obtain ⟨fuel, rfl⟩ := Nat.exists_eq_succ_of_ne_zero (Nat.ne_zero_of_lt fuelled)
    rfl
  | blank _ ih =>
    obtain ⟨fuel, rfl⟩ := Nat.exists_eq_succ_of_ne_zero (Nat.ne_zero_of_lt fuelled)
    exact ih storable (Nat.lt_of_succ_lt_succ fuelled)
  | @header path statements text _ ih =>
    obtain ⟨fuel, rfl⟩ := Nat.exists_eq_succ_of_ne_zero (Nat.ne_zero_of_lt fuelled)
    simp only [List.mem_cons, forall_eq_or_imp] at storable
    have ih := ih storable.2 (show text.length < fuel by simp [renderHeader] at fuelled; omega)
    have begins : ∃ c more, renderHeader path = c :: more ∧ StartsValue c :=
      ⟨'[', _, rfl, by decide⟩
    rw [readAll_append begins (read_renderHeader storable.1 text), ih]
    rfl
  | @pair key value statements text _ ih =>
    obtain ⟨fuel, rfl⟩ := Nat.exists_eq_succ_of_ne_zero (Nat.ne_zero_of_lt fuelled)
    simp only [List.mem_cons, forall_eq_or_imp] at storable
    have ih := ih storable.2 (show text.length < fuel by simp at fuelled; omega)
    obtain ⟨⟨⟨_, same, bare⟩, stored⟩, -⟩ := storable
    cases same
    obtain ⟨c, more, chars, isBare⟩ := bare.begins
    have begins
        : ∃ d tail, keyText key ++ " = ".toList ++ value.render ++ ['\n'] = d :: tail
          ∧ StartsValue d :=
      ⟨c, _, by rw [bare.keyText, chars]; rfl, startsValue_of_isBare isBare⟩
    have reads := read_pair bare stored text
    rw [List.append_cons] at reads ⊢
    rw [readAll_append begins reads, ih]
    rfl

/-- A text that says statements does not begin with a byte order mark. -/
theorem Says.head?_ne {statements : List Statement} {text : List Char}
    (said : Says statements text) (storable : ∀ s ∈ statements, s.IsStorable)
    : text.head? ≠ some '\ufeff' := by
  cases said with
  | done => nofun
  | blank => simp
  | header => simp [renderHeader]
  | @pair key value statements text =>
    simp only [List.mem_cons, forall_eq_or_imp] at storable
    obtain ⟨⟨⟨_, same, bare⟩, -⟩, -⟩ := storable
    cases same
    obtain ⟨c, more, chars, isBare⟩ := bare.begins
    rw [bare.keyText, chars]
    rintro same
    cases same
    cases isBare

-----------------------------------------------------------------------------------------
-- Written documents
-----------------------------------------------------------------------------------------

theorem Says.append {first second : List Statement} {before after : List Char}
    (said : Says first before) (below : Says second after)
    : Says (first ++ second) (before ++ after) := by
  induction said with
  | done => exact below
  | blank _ ih => exact .blank ih
  | header _ ih =>
    rw [List.append_assoc]
    exact .header ih
  | pair _ ih =>
    rw [List.append_assoc, List.cons_append]
    exact .pair ih

namespace Section

theorem IsStorable.statements {s : Section} (storable : s.IsStorable)
    : ∀ statement ∈ s.statements, statement.IsStorable := by
  intro statement member
  rcases List.mem_cons.mp member with rfl | member
  · exact storable.1
  · obtain ⟨entry, among, rfl⟩ := List.mem_map.mp member
    exact ⟨⟨entry.1, rfl, (storable.2 entry among).1⟩, (storable.2 entry among).2⟩

theorem IsStorable.leaveAll {sections : List Section}
    (storable : ∀ s ∈ sections, s.IsStorable) (kept : List String → Bool)
    : ∀ s ∈ leaveAll kept sections, s.IsStorable := by
  intro left member
  obtain ⟨s, among, rfl⟩ := List.mem_map.mp member
  have whole := storable s (List.mem_filter.mp among).1
  exact ⟨whole.1, fun entry inside => whole.2 entry (List.mem_filter.mp inside).1⟩

theorem leaveAll_append (kept : List String → Bool) (first second : List Section)
    : leaveAll kept (first ++ second) = leaveAll kept first ++ leaveAll kept second := by
  rw [leaveAll, List.filter_append, List.map_append]
  rfl

theorem statements_leaveAll_nil (kept : List String → Bool)
    : (leaveAll kept []).flatMap Section.statements = [] :=
  rfl

/-- A section is left with its path, or not at all. -/
theorem statements_leaveAll_cons (kept : List String → Bool) (s : Section)
    (sections : List Section)
    : (Section.leaveAll kept (s :: sections)).flatMap Section.statements
      = (if kept s.path then (s.leave kept).statements else [])
        ++ (Section.leaveAll kept sections).flatMap Section.statements := by
  rw [Section.leaveAll, List.filter_cons]
  split
  · rfl
  · rfl

theorem IsStorable.isSaid {s : Section} (storable : s.IsStorable)
    : Says s.statements s.text := by
  obtain ⟨path, entries⟩ := s
  have values
      : Says (entries.map fun entry => .pair [entry.1] entry.2) (renderValues entries) := by
    have all := storable.2
    induction entries with
    | nil => exact .done
    | cons entry more ih =>
      simp only [List.mem_cons, forall_eq_or_imp] at all
      have ih := ih ⟨storable.1, all.2⟩ all.2
      obtain ⟨key, value⟩ := entry
      have below : Says (.pair [key] value :: _) _ := .pair ih
      cases all.1.2 <;> exact below
  exact .header values

/-- Sections are said with an empty line between any two. -/
theorem IsStorable.isSaid_intercalate {sections : List Section}
    (storable : ∀ s ∈ sections, s.IsStorable)
    : Says (sections.flatMap Section.statements)
        (List.intercalate ['\n'] (sections.map Section.text)) := by
  induction sections with
  | nil => exact .done
  | cons s more ih =>
    simp only [List.mem_cons, forall_eq_or_imp] at storable
    have ih := ih storable.2
    cases more with
    | nil => simpa using storable.1.isSaid
    | cons next more =>
      rw [List.map_cons, List.map_cons, List.intercalate_cons_cons, List.append_assoc,
        List.flatMap_cons]
      exact storable.1.isSaid.append (.blank ih)

end Section

end Casebook.Toml
