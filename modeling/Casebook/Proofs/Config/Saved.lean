import Casebook.Config.File
import Casebook.Proofs.Config.Partial
import Casebook.Proofs.Evaluation
import Casebook.Proofs.Tree.Write

/-! Settings that are saved and loaded again. The file that is loaded may have been edited in
between by deleting keys and tables; what they said then has its default, and all else is as it was
saved.
-/

namespace Casebook.Config

open Toml

/-- The numbers of the settings fit in a document. -/
def Fits (c : Config) : Prop :=
  (∀ depth ∈ c.scan.maxDepth, (depth : Int) ≤ maxInteger)
  ∧ (c.output.startIndex : Int) ≤ maxInteger

/-- The text is the document of the settings without the tables and keys that are not kept. -/
def IsLeftIn (kept : List String → Bool) (c : Config) (text : String) : Prop :=
  Says ((Section.leaveAll kept c.sections).flatMap Section.statements) text.toList

-----------------------------------------------------------------------------------------
-- Numbers
-----------------------------------------------------------------------------------------

theorem isInteger_count (n : Nat)
    : isInteger n = true ↔ (n : Int) ≤ maxInteger := by
  rw [isInteger, Bool.and_eq_true, decide_eq_true_eq, decide_eq_true_eq]
  unfold maxInteger
  omega

theorem itemsInRange_texts (texts : List String)
    : itemsInRange (texts.map .string) = true := by
  induction texts with
  | nil => rfl
  | cons text more ih => exact ih

theorem entriesInRange_toDocument (c : Config)
    : entriesInRange c.toDocument = true ↔ c.Fits := by
  obtain ⟨⟨extensions, dirs, patterns, depth, _, _, _, marker⟩, output⟩ := c
  cases depth with
  | none =>
    simp [Fits, toDocument, ScanSettings.toDocument, OutputSettings.toDocument,
      Marker.toDocument, ScanSettings.textsValue, entriesInRange, Value.isInRange,
      itemsInRange_texts, isInteger_count]
  | some depth =>
    simp [Fits, toDocument, ScanSettings.toDocument, OutputSettings.toDocument,
      Marker.toDocument, ScanSettings.textsValue, entriesInRange, Value.isInRange,
      itemsInRange_texts, isInteger_count]

theorem render_of_fits {c : Config} (fits : c.Fits)
    : c.render = .ok (String.ofList c.toDocument.text) :=
  if_pos (c.entriesInRange_toDocument.mpr fits)

theorem render_of_not_fits {c : Config} (large : ¬c.Fits)
    : c.render = .error (.outOfRange "an integer of more than 64 bits") :=
  if_neg (mt c.entriesInRange_toDocument.mp large)

-----------------------------------------------------------------------------------------
-- Texts
-----------------------------------------------------------------------------------------

theorem storable_textsValue (texts : List String)
    : Storable maxDepth (ScanSettings.textsValue texts) := by
  refine Storable.array fun item member => ?_
  obtain ⟨text, -, rfl⟩ := List.mem_map.mp member
  exact .string text

theorem storable_count {n : Nat} (fits : (n : Int) ≤ maxInteger)
    : Storable maxDepth (.integer n) :=
  .count ((isInteger_count n).mpr fits)

/-- The keys of the tables and of the values that settings have in a document. -/
def documentKeys : List String :=
  ["scan", "syntax", "output", "extensions", "exclude_dirs", "exclude_patterns", "max_depth",
    "follow_links", "skip_unreadable", "strict", "prefix", "open_bracket", "close_bracket",
    "terminator", "directory", "stem", "extension", "start_index", "overwrite"]

theorem isBareKey_of_mem {key : String} (member : key ∈ documentKeys)
    : IsBareKey key := by
  have all : ∀ key ∈ documentKeys, IsBareKey key := by decide
  exact all key member

theorem storable_section {path : List String} {entries : Table} (some_ : path ≠ [])
    (short : path.length ≤ 2) (keys : ∀ key ∈ path, key ∈ documentKeys)
    (all : ∀ entry ∈ entries, entry.1 ∈ documentKeys ∧ Storable maxDepth entry.2)
    : (Section.mk path entries).IsStorable := by
  refine ⟨⟨some_, Nat.le_trans short (by decide), ?_⟩, ?_⟩
  · intro key member
    exact isBareKey_of_mem (keys key member)
  · intro entry member
    exact ⟨isBareKey_of_mem (all entry member).1, (all entry member).2⟩

theorem storable_values {s : ScanSettings}
    (fits : ∀ depth ∈ s.maxDepth, (depth : Int) ≤ maxInteger)
    : ∀ entry ∈ s.values, entry.1 ∈ documentKeys ∧ Storable maxDepth entry.2 := by
  intro entry member
  rw [ScanSettings.values, List.mem_filter] at member
  obtain ⟨among, other⟩ := member
  simp only [ScanSettings.toDocument, List.mem_append, List.mem_cons, List.mem_map,
    List.not_mem_nil, or_false, Option.mem_toList] at among
  rcases among with
    (((rfl | rfl | rfl) | ⟨depth, isDepth, rfl⟩) | rfl | rfl | rfl | rfl)
  · exact ⟨by simp [documentKeys], storable_textsValue _⟩
  · exact ⟨by simp [documentKeys], storable_textsValue _⟩
  · exact ⟨by simp [documentKeys], storable_textsValue _⟩
  · exact ⟨by simp [documentKeys], storable_count (fits depth isDepth)⟩
  · exact ⟨by simp [documentKeys], .boolean _⟩
  · exact ⟨by simp [documentKeys], .boolean _⟩
  · exact ⟨by simp [documentKeys], .boolean _⟩
  · simp at other

theorem storable_marker (m : Marker)
    : ∀ entry ∈ m.toDocument, entry.1 ∈ documentKeys ∧ Storable maxDepth entry.2 := by
  intro entry member
  simp only [Marker.toDocument, List.mem_cons, List.not_mem_nil, or_false] at member
  rcases member with rfl | rfl | rfl | rfl
  all_goals exact ⟨by simp [documentKeys], .string _⟩

theorem storable_output {o : OutputSettings} (fits : (o.startIndex : Int) ≤ maxInteger)
    : ∀ entry ∈ o.toDocument, entry.1 ∈ documentKeys ∧ Storable maxDepth entry.2 := by
  intro entry member
  simp only [OutputSettings.toDocument, List.mem_cons, List.not_mem_nil, or_false] at member
  rcases member with rfl | rfl | rfl | rfl | rfl
  · exact ⟨by simp [documentKeys], .string _⟩
  · exact ⟨by simp [documentKeys], .string _⟩
  · exact ⟨by simp [documentKeys], .string _⟩
  · exact ⟨by simp [documentKeys], storable_count fits⟩
  · exact ⟨by simp [documentKeys], .boolean _⟩

theorem Fits.storable {c : Config} (fits : c.Fits)
    : ∀ s ∈ c.sections, s.IsStorable := by
  intro s member
  simp only [sections, ScanSettings.sections, List.cons_append, List.nil_append, List.mem_cons,
    List.not_mem_nil, or_false] at member
  rcases member with rfl | rfl | rfl
  · exact storable_section (by simp) (by decide) (by simp [documentKeys]) (storable_values fits.1)
  · exact storable_section (by simp) (by decide) (by simp [documentKeys]) (storable_marker _)
  · exact storable_section (by simp) (by decide) (by simp [documentKeys]) (storable_output fits.2)

theorem text_toDocument (c : Config)
    : c.toDocument.text = List.intercalate ['\n'] (c.sections.map Section.text) := by
  obtain ⟨⟨extensions, dirs, patterns, depth, _, _, _, marker⟩, output⟩ := c
  cases depth <;> rfl

-----------------------------------------------------------------------------------------
-- Loading
-----------------------------------------------------------------------------------------

/-- The settings that are left are read from a text in which they are. -/
theorem ofText_of_isLeftIn {c : Config} (fits : c.Fits) {kept : List String → Bool} {text : String}
    (left : c.IsLeftIn kept text)
    : ofText text = .ok (c.leave kept) := by
  have storable
      : ∀ statement ∈ (Section.leaveAll kept c.sections).flatMap Section.statements,
          statement.IsStorable := by
    intro statement member
    obtain ⟨s, among, within⟩ := List.mem_flatMap.mp member
    exact (Section.IsStorable.leaveAll fits.storable kept s among).statements statement within
  obtain ⟨d, built, settings⟩ := c.ofDocument_leaveAll kept
  have noMark := Says.head?_ne left storable
  have read := Says.readAll left storable (Nat.lt_succ_self _)
  have document : Table.ofText text = .ok (Slots.toTable d.slots) := by
    unfold Table.ofText
    split
    next rest same => simp [same] at noMark
    next => simp only [read, built, bind, Except.bind]
  rw [ofText, document]
  exact settings

theorem pathExists_of_readText {t : Tree} {path text : String}
    (read : t.readText path = .ok text)
    : t.pathExists path = true := by
  unfold Tree.readText at read
  unfold Tree.pathExists
  cases found : t.stat path with
  | error cause => simp [found, bind, Except.bind] at read
  | ok place => rfl

theorem load_of_isLeftIn {c : Config} (fits : c.Fits) {kept : List String → Bool} {t : Tree}
    {path text : String} (read : t.readText path = .ok text) (left : c.IsLeftIn kept text)
    : load t path = .ok (c.leave kept) := by
  rw [load, pathExists_of_readText read, read]
  simp [ofText_of_isLeftIn fits left]

theorem leave_all (c : Config)
    : c.leave (fun _ => true) = c :=
  rfl

/-- Whatever tables and keys are kept, what is left of the document can be written. -/
theorem Fits.isLeftIn {c : Config} (fits : c.Fits) (kept : List String → Bool)
    : c.IsLeftIn kept
        (String.ofList
          (List.intercalate ['\n'] ((Section.leaveAll kept c.sections).map Section.text))) := by
  rw [IsLeftIn, String.toList_ofList]
  exact Section.IsStorable.isSaid_intercalate (Section.IsStorable.leaveAll fits.storable kept)

theorem leaveAll_all (sections : List Section)
    : Section.leaveAll (fun _ => true) sections = sections := by
  have every {α : Type} (items : List α) : items.filter (fun _ => true) = items :=
    List.filter_eq_self.mpr fun _ _ => rfl
  have whole (s : Section) : s.leave (fun _ => true) = s := by
    rw [Section.leave, every]
  rw [Section.leaveAll, every, List.map_congr_left fun s _ => whole s, List.map_id']

-----------------------------------------------------------------------------------------
-- Saving
-----------------------------------------------------------------------------------------

theorem save_eq_ok {c : Config} {t saved : Tree} {path : String}
    (ok : c.save t path = (.ok (), saved))
    : ∃ text, c.render = .ok text ∧ t.writeText path text = (.ok (), saved) := by
  unfold save at ok
  split at ok
  next => cases ok
  next text rendered =>
    split at ok
    next => cases ok
    next written isWritten =>
      cases ok
      exact ⟨text, rendered, isWritten⟩

theorem fits_of_render {c : Config} {text : String} (rendered : c.render = .ok text)
    : c.Fits := by
  by_contra large
  rw [render_of_not_fits large] at rendered
  cases rendered

/-- Settings are loaded as they were saved. Where tables and keys of the saved document have been
deleted, what they said has its default. Settings with a number that fits in no document are not
saved, and nothing is written then; all others are, if their file can be written.
-/
theorem save_load (c : Config) (t : Tree) (path : String)
    : (∀ saved,
        c.save t path = (.ok (), saved) →
          load saved path = .ok c
          ∧ (∃ text, saved.readText path = .ok text ∧ c.IsLeftIn (fun _ => true) text)
          ∧ ∀ kept,
              (∃ text, c.IsLeftIn kept text)
              ∧ ∀ (edited : Tree) (file text : String),
                  edited.readText file = .ok text → c.IsLeftIn kept text →
                    load edited file = .ok (c.leave kept))
      ∧ (∀ fault,
          c.render = .error fault →
            c.save t path = (.error (.config (.unwritable fault.message)), t))
      ∧ ((∃ fault, c.render = .error fault) ↔ ¬c.Fits)
      ∧ (∀ text written,
          c.render = .ok text → t.writeText path text = (.ok (), written) →
            c.save t path = (.ok (), written)) := by
  refine ⟨?_, ?_, ?_, ?_⟩
  · intro saved ok
    obtain ⟨text, rendered, written⟩ := save_eq_ok ok
    have fits := fits_of_render rendered
    have read := Tree.readText_of_writeText (congrArg Prod.fst written)
    rw [written] at read
    have whole : c.IsLeftIn (fun _ => true) text := by
      have left := fits.isLeftIn fun _ => true
      rw [leaveAll_all, ← text_toDocument] at left
      rw [render_of_fits fits] at rendered
      cases rendered
      exact left
    have loaded := load_of_isLeftIn fits read whole
    rw [leave_all] at loaded
    refine ⟨loaded, ⟨text, read, whole⟩, ?_⟩
    intro kept
    refine ⟨⟨_, fits.isLeftIn kept⟩, ?_⟩
    intro edited file text read left
    exact load_of_isLeftIn fits read left
  · intro fault failed
    rw [save, failed]
  · constructor
    · rintro ⟨fault, failed⟩ fits
      rw [render_of_fits fits] at failed
      cases failed
    · intro large
      exact ⟨_, render_of_not_fits large⟩
  · intro text written rendered isWritten
    rw [save, rendered]
    simp only [isWritten]

/-- Settings with a depth, and with texts that need quotes. -/
def unusual : Config where
  scan :=
    {
      extensions := ["sol", "s\\o\"l"]
      maxDepth := some 4
      marker := { lead := "Q\"", openBracket := '[', closeBracket := '\'' }
    }
  output := { stem := "case\n'", startIndex := 7 }

/-- The document of those settings without the depth, the lead of the marker and the output. -/
def unusualLeft : String :=
  "[scan]\nextensions = [\n    \"sol\",\n    's\\o\"l',\n]\nexclude_dirs = []\n"
    ++ "exclude_patterns = []\nfollow_links = false\nskip_unreadable = false\nstrict = false\n"
    ++ "\n[scan.syntax]\nopen_bracket = \"[\"\nclose_bracket = \"'\"\nterminator = '\";'\n"

theorem unusual_fits
    : unusual.Fits := by
  refine ⟨fun depth some_ => ?_, by decide⟩
  cases some_
  decide

theorem isLeftIn_unusualLeft
    : unusual.IsLeftIn
        (fun path => path ∉ [["scan", "max_depth"], ["scan", "syntax", "prefix"], ["output"]])
        unusualLeft := by
  have left := unusual_fits.isLeftIn
    fun path => path ∉ [["scan", "max_depth"], ["scan", "syntax", "prefix"], ["output"]]
  convert left using 1
  decide +kernel

theorem save_load_edited
    : (∃ saved edited,
        unusual.save (Tree.ofTop []) "settings.toml" = (.ok (), saved)
        ∧ load saved "settings.toml" = .ok unusual
        ∧ saved.writeText "settings.toml" unusualLeft = (.ok (), edited)
        ∧ load edited "settings.toml"
          = .ok
              { scan :=
                  { extensions := ["sol", "s\\o\"l"]
                    marker := { openBracket := '[', closeBracket := '\'' } } })
      ∧ (({ output := { startIndex := 2 ^ 63 } } : Config).save (Tree.ofTop []) "a.toml").2
        = Tree.ofTop [] := by
  let saved := (unusual.save (Tree.ofTop []) "settings.toml").2
  have isSaved : (unusual.save (Tree.ofTop []) "settings.toml").1 = .ok () :=
    eq_ok_of_toOption (by decide +kernel)
  have isEdited : (saved.writeText "settings.toml" unusualLeft).1 = .ok () :=
    eq_ok_of_toOption (by decide +kernel)
  obtain ⟨loaded, -, left⟩ :=
    (save_load unusual (Tree.ofTop []) "settings.toml").1 saved (Prod.ext isSaved rfl)
  have read := Tree.readText_of_writeText isEdited
  refine ⟨⟨saved, _, Prod.ext isSaved rfl, loaded, Prod.ext isEdited rfl, ?_⟩, ?_⟩
  · exact (left _).2 _ "settings.toml" unusualLeft read isLeftIn_unusualLeft
  · have large : ¬({ output := { startIndex := 2 ^ 63 } } : Config).Fits := by
      rintro ⟨-, fits⟩
      exact absurd fits (by decide)
    have refused := (save_load _ (Tree.ofTop []) "a.toml").2.1 _ (render_of_not_fits large)
    exact congrArg Prod.snd refused

end Casebook.Config
