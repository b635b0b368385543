import Casebook.Proofs.Config.Check
import Casebook.Proofs.Evaluation
import Casebook.Proofs.Literal.Repair

/-! What a strict collector says of a source that it refuses. The failure tells where the literal
that is left open begins, and names a text that it is never closed with. That text is made for the
marker that settings start from, whatever marker the source was scanned with.
-/

namespace Casebook

namespace Failure

/-- The message for a person names a text that a literal opened at a place is never closed with. -/
def NamesClosing (failure : Failure) (path : String) (line : Nat) (closing : List Char) : Prop :=
  failure.userMessage
  = s!"Raw string literal opened at {path}:{line} is never closed with " ++ String.ofList closing

/-- The text that is named is the closing text of the marker that settings start from. -/
theorem namesClosing_iff {path delimiter : String} {line : Nat} {closing : List Char}
    : (unterminatedLiteral path line delimiter).NamesClosing path line closing
      ↔ closing = ({} : Marker).closing delimiter.toList := by
  have written
      : (unterminatedLiteral path line delimiter).userMessage
        = s!"Raw string literal opened at {path}:{line} is never closed with ){delimiter}\";" :=
    rfl
  have message
      : (unterminatedLiteral path line delimiter).userMessage
        = s!"Raw string literal opened at {path}:{line} is never closed with "
          ++ String.ofList (({} : Marker).closing delimiter.toList) := by
    rw [written, ← String.toList_inj]
    simp [Marker.closing, toString]
  rw [NamesClosing, message, String.append_right_inj, String.ofList_inj, eq_comm]

end Failure

/-- Two markers close literals alike exactly if they have the same close bracket and tail. -/
theorem Marker.closing_inj {m m' : Marker} {delimiter : List Char}
    : m.closing delimiter = m'.closing delimiter
      ↔ m.closeBracket = m'.closeBracket ∧ m.tail = m'.tail := by
  rw [closing, closing, List.cons_append, List.cons_append, List.cons.injEq,
    List.append_cancel_left_eq, String.toList_inj]

namespace Collector

variable {c : Config} {k : Collector} {file : Source} {counter : Nat} {s : Collecting}
  {text : String} {u : OpenLiteral} {dryRun : Bool}

/-- The collector that settings ask for scans with their marker, and is as strict as they are. -/
theorem marker_strict_of_ofConfig (made : ofConfig c dryRun = .ok k)
    : k.marker = c.scan.marker ∧ k.strict = c.scan.strict := by
  unfold ofConfig at made
  cases usable : c.scan.marker.checkSearch with
  | error failure =>
    rw [usable] at made
    cases made
  | ok =>
    rw [usable] at made
    cases made
    exact ⟨rfl, rfl⟩

/-- A strict collector refuses a source with a literal that is left open. -/
theorem collectFile_of_open (strict : k.strict = true)
    (read : s.tree.readText file.path = .ok text)
    (left : (k.marker.scan text).unterminated = some u)
    : (k.collectFile file counter s).1
      = .error (.unterminatedLiteral file.path u.line u.delimiter) := by
  simp only [collectFile, read, left, strict, if_true]

/-- A strict collector refuses a source with a literal left open, for which a scan looks for the
closing text of the marker in the settings. The failure names the closing text of the marker that
settings start from, and so the one that is looked for where, and only where, both markers have the
same close bracket and tail.
-/
theorem collectFile_namesClosing_iff (file : Source) (counter : Nat)
    (made : ofConfig c dryRun = .ok k) (strict : c.scan.strict = true)
    (read : s.tree.readText file.path = .ok text)
    (left : (c.scan.marker.scan text).unterminated = some u)
    : (∀ line, '\n' ∉ line →
          ((c.scan.marker.scan (Text.ended text ++ String.ofList line)).isClean = true
            ↔ c.scan.marker.closing u.delimiter.toList <:+ Text.trim line))
      ∧ ∃ failure,
          (k.collectFile file counter s).1 = .error failure
          ∧ failure = .unterminatedLiteral file.path u.line u.delimiter
          ∧ failure.NamesClosing file.path u.line (({} : Marker).closing u.delimiter.toList)
          ∧ (failure.NamesClosing file.path u.line (c.scan.marker.closing u.delimiter.toList)
            ↔ c.scan.marker.closeBracket = ')' ∧ c.scan.marker.tail = "\";") := by
  obtain ⟨sameMarker, sameStrict⟩ := marker_strict_of_ofConfig made
  refine ⟨fun line clean => Marker.isClean_scan_append_iff left clean, _,
    collectFile_of_open (sameStrict.trans strict) read (sameMarker ▸ left), rfl, ?_, ?_⟩
  · exact Failure.namesClosing_iff.mpr rfl
  · rw [Failure.namesClosing_iff]
    exact Marker.closing_inj

/-- Strict settings with square brackets in their marker. -/
def squared : Config where
  scan := { strict := true, marker := { openBracket := '[', closeBracket := ']' } }

/-- A source with a literal that is left open. -/
def openSquare : Source where
  path := "a.cpp"
  relativePath := "a.cpp"
  size := 8

/-- A run that is about to read this source. -/
def beforeOpenSquare : Collecting where
  tree := Tree.ofTop [("a.cpp", .file "R\"d[\nx\n".toUTF8)]
  progress := Progress.begin 1 0

/-- The collector with these settings. -/
def squaredCollector : Collector where
  marker := squared.scan.marker
  writer := CaseWriter.ofSettings squared.output false
  strict := true

theorem ofConfig_squared
    : ofConfig squared false = .ok squaredCollector := by
  have usable : squared.scan.marker.checkSearch = .ok () :=
    Marker.checkSearch_eq_ok (by decide +kernel) (by cbv)
  rw [ofConfig, usable]
  rfl

/-- The source is read, and its literal is left open. -/
theorem readText_openSquare
    : beforeOpenSquare.tree.readText openSquare.path = .ok "R\"d[\nx\n"
      ∧ (squared.scan.marker.scan "R\"d[\nx\n").unterminated = some ⟨1, "d"⟩ :=
  ⟨eq_ok_of_toOption (by decide +kernel), by decide +kernel⟩

/-- A scan looks for `]d";` at the end of a line, but the failure names `)d";`. -/
theorem collectFile_namesClosing_squared
    : ofConfig squared false = .ok squaredCollector
      ∧ squared.scan.strict = true
      ∧ beforeOpenSquare.tree.readText openSquare.path = .ok "R\"d[\nx\n"
      ∧ (squared.scan.marker.scan "R\"d[\nx\n").unterminated = some ⟨1, "d"⟩
      ∧ (squared.scan.marker.scan "R\"d[\nx\n]d\";").isClean = true
      ∧ (squared.scan.marker.scan "R\"d[\nx\n)d\";").isClean = false
      ∧ ∃ failure,
          (squaredCollector.collectFile openSquare 0 beforeOpenSquare).1 = .error failure
          ∧ failure = .unterminatedLiteral "a.cpp" 1 "d"
          ∧ failure.NamesClosing "a.cpp" 1 ")d\";".toList
          ∧ ¬ failure.NamesClosing "a.cpp" 1 "]d\";".toList := by
  obtain ⟨read, left⟩ := readText_openSquare
  obtain ⟨closedBy, failure, refused, opened, names, namesIff⟩ :=
    collectFile_namesClosing_iff openSquare 0 ofConfig_squared rfl read left
  have closed : (squared.scan.marker.scan "R\"d[\nx\n]d\";").isClean = true :=
    (closedBy "]d\";".toList (by decide)).mpr (by decide +kernel)
  have stays : (squared.scan.marker.scan "R\"d[\nx\n)d\";").isClean = false :=
    Bool.eq_false_iff.mpr (mt (closedBy ")d\";".toList (by decide)).mp (by decide +kernel))
  exact ⟨ofConfig_squared, rfl, read, left, closed, stays, failure, refused, opened, names,
    mt namesIff.mp (by decide +kernel)⟩

/-- Not every strict collector with settings that are accepted names the text that its scan looks
for: with square brackets in the marker it names a text with a round one.
-/
theorem not_every_refusal_names_closing
    : ¬ ∀ (c : Config) (dryRun : Bool) (k : Collector) (file : Source) (counter : Nat)
          (s : Collecting) (text : String) (u : OpenLiteral) (failure : Failure),
          c.check s.tree = .ok ()
          → ofConfig c dryRun = .ok k
          → c.scan.strict = true
          → s.tree.readText file.path = .ok text
          → (c.scan.marker.scan text).unterminated = some u
          → (k.collectFile file counter s).1 = .error failure
          → failure.NamesClosing file.path u.line (c.scan.marker.closing u.delimiter.toList) := by
  intro every
  obtain ⟨read, left⟩ := readText_openSquare
  have accepted : squared.check beforeOpenSquare.tree = .ok () :=
    eq_ok_of_toOption (by decide +kernel)
  have refused : (squaredCollector.collectFile openSquare 0 beforeOpenSquare).1 = .error _ :=
    collectFile_of_open rfl read left
  have names := every squared false squaredCollector openSquare 0 beforeOpenSquare _ _ _ accepted
    ofConfig_squared rfl read left refused
  rw [Failure.namesClosing_iff] at names
  exact absurd names (by decide +kernel)

end Collector

end Casebook
