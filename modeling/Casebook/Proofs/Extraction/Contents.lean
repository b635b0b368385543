import Casebook.Proofs.Evaluation
import Casebook.Proofs.Extraction.Parts

/-! What a successful run writes and reports. Although sources are read and cases are written in
turn, it is as if all sources were read first: no case that is written keeps to a source or to
another case.
-/

namespace Casebook.Extraction

/-- As things stand in a tree, the cases numbered from `first` up to `next` are written over no
source and through no link.
-/
structure Separate (e : Extraction) (t : Tree) (listing : Listing) (first next : Nat) : Prop where
  sources
    : ∀ index, first ≤ index → index < next → ∀ file ∈ listing.files,
        t.isSame (e.writer.casePath index) file.path = false
  links : ∀ index, first ≤ index → index < next → t.isLink (e.writer.casePath index) = false

/-- Cases numbered from zero on are separate if each of them is. -/
theorem separate_of_forall_lt {e : Extraction} {t : Tree} {listing : Listing} {next : Nat}
    (apart
      : ∀ index < next,
          (∀ file ∈ listing.files, t.isSame (e.writer.casePath index) file.path = false)
          ∧ t.isLink (e.writer.casePath index) = false)
    : e.Separate t listing 0 next :=
  ⟨fun index _ upTo => (apart index upTo).1, fun index _ upTo => (apart index upTo).2⟩

/-- As long as no number is too great for a word, each of so many separate cases leads to no source
and ends at no link.
-/
theorem Separate.after {e : Extraction} {t : Tree} {listing : Listing} {first count n : Nat}
    (separate : e.Separate t listing first (first + count))
    (fits : first + count < CaseNumber.bound) (inRange : n < count)
    : (∀ file ∈ listing.files,
          t.isSame (e.writer.casePath (CaseNumber.after first n)) file.path = false)
      ∧ t.isLink (e.writer.casePath (CaseNumber.after first n)) = false := by
  have least : first ≤ first + n := Nat.le_add_right first n
  have upTo : first + n < first + count := Nat.add_lt_add_left inRange first
  rw [CaseNumber.after_eq (Nat.lt_trans upTo fits)]
  exact ⟨separate.sources _ least upTo, separate.links _ least upTo⟩

/-- A run reports all literals of its sources in the order of the listing, and leaves the content
of each in the file of its number. It warns of what the walk complained of and then of what is to
be said of each source.
-/
structure Renders (e : Extraction) (t : Tree) (root : String) (clock : Clock) (listing : Listing)
    (report : Report)
    : Prop where
  cases : report.cases = e.records (t.literalsOfAll e.config.scan.marker listing.files)
  contents
    : ∀ n file l,
        (t.literalsOfAll e.config.scan.marker listing.files)[n]? = some (file, l) →
        (e.run t root clock).tree.readText (e.writer.casePath (e.config.output.startIndex + n))
          = .ok l.content
  warnings
    : report.warnings
      = listing.skipped ++ listing.files.filterMap (t.warningOf? e.config.scan.marker)

variable {e : Extraction} {t : Tree} {root : String} {clock : Clock} {listing : Listing}

/-- Sources are read alike before and after the output directory has been made. -/
theorem readText_prepared
    (listed : (Walker.ofSettings e.config.scan).list t root = .ok listing) {file : Source}
    (member : file ∈ listing.files)
    : (e.prepared t).readText file.path = t.readText file.path := by
  obtain ⟨place, entry, found⟩ := Walker.found_of_listed listed member
  exact Tree.readText_congr ((stat_prepared found).trans found.symm)

/-- Listed sources are found once the output directory has been made, so they are apart from cases
that lead to none of them.
-/
theorem readsApart_of_listed {first count : Nat}
    (sources
      : ∀ n < count, ∀ file ∈ listing.files,
          (e.prepared t).isSame (e.writer.casePath (CaseNumber.after first n)) file.path = false)
    (listed : (Walker.ofSettings e.config.scan).list t root = .ok listing)
    : e.collector.ReadsApart (e.prepared t) listing.files first count := by
  refine ⟨fun file member => ?_, sources⟩
  obtain ⟨place, entry, found⟩ := Walker.found_of_listed listed member
  exact ⟨place, entry, stat_prepared found⟩

/-- Sources are read as they stood as long as the cases that were written lead to none of them. -/
theorem readText_reached {count : Nat}
    (sources
      : ∀ n < count, ∀ file ∈ listing.files,
          (e.prepared t).isSame
              (e.writer.casePath (CaseNumber.after e.config.output.startIndex n)) file.path
            = false)
    (listed : (Walker.ofSettings e.config.scan).list t root = .ok listing)
    {written : List (Source × Literal)} {s : Collecting}
    (reached : e.collector.Reaches (e.begun t listing) written s)
    (upTo : s.progress.casesWritten ≤ count) {file : Source} (member : file ∈ listing.files)
    : s.tree.readText file.path = (e.prepared t).readText file.path :=
  (readsApart_of_listed sources listed).readText_eq (e.nextIndex_begun t listing) reached
    (Nat.le_add_left_of_le upTo) member

/-- A successful run of accepted settings renders its sources, if its cases are separate from them
and from links once the output directory has been made, and none of its numbers is too great for a
word.
-/
theorem run_renders (accepted : e.config.check t = .ok ()) (real : e.dryRun = false)
    (listed : (Walker.ofSettings e.config.scan).list t root = .ok listing) {report : Report}
    (ok : (e.run t root clock).result = .ok report)
    (fits : e.config.output.startIndex + report.summary.casesWritten < CaseNumber.bound)
    (separate
      : e.Separate (e.prepared t) listing report.summary.firstIndex report.summary.nextIndex)
    : e.Renders t root clock listing report := by
  obtain ⟨p, ended, rfl⟩ := (run_result_eq_ok_iff listed).mp ok
  have separate : e.Separate (e.prepared t) listing p.firstIndex p.nextIndex := separate
  obtain ⟨first, behind⟩ := nextIndex_of_collect ended fits
  rw [first, behind] at separate
  have same := collect_of_ok ended
  rw [same] at ended
  have next : (e.begun t listing).progress.nextIndex = e.config.output.startIndex := rfl
  obtain ⟨last, reached, tree, rfl, warnings⟩ :=
    Collector.collectRest_literals
      (fun written s reached upTo file member =>
        readText_reached (fun n inRange => (separate.after fits inRange).1) listed reached upTo member)
      .here next ended
  -- All that is read was read the same before the run.
  have literals
      : (e.begun t listing).tree.literalsOfAll e.collector.marker listing.files
        = t.literalsOfAll e.config.scan.marker listing.files :=
    Tree.literalsOfAll_congr (fun file member => readText_prepared listed member) _
  rw [literals, List.nil_append] at reached
  have counted
      : last.progress.casesWritten
        = (t.literalsOfAll e.config.scan.marker listing.files).length :=
    reached.casesWritten.trans (Nat.zero_add _)
  have fits : e.config.output.startIndex + last.progress.casesWritten < CaseNumber.bound := fits
  rw [counted] at fits separate
  refine ⟨?_, fun n file l found => ?_, ?_⟩
  · rw [records_eq fits]
    exact reached.cases
  · obtain ⟨inRange, -⟩ := List.getElem?_eq_some_iff.mp found
    rw [run_tree listed, same, tree, ← CaseNumber.after_eq (by omega)]
    exact reached.readText_casePath real (CaseWriter.namesFiles_of_check accepted _) fits
      (fun i earlier => (separate.after fits earlier).2) found
  · have said : listing.files.filterMap ((e.begun t listing).tree.warningOf? e.collector.marker)
        = listing.files.filterMap (t.warningOf? e.config.scan.marker) :=
      List.filterMap_congr fun file member =>
        Tree.warningOf?_congr (readText_prepared listed member) _
    rw [Report.ofProgress, warnings, said]
    rfl

/-- A source with two literals, one with a literal and another that is left open, and one that is
no text.
-/
def threeSources : Tree :=
  .ofTop [
    ("a.cpp", .file "R\"(\nx\n)\";\nR\"a(\ny\n)a\";\n".toUTF8),
    ("b.cpp", .file "R\"(\nz\n)\";\nR\"b(\n".toUTF8),
    ("c.cpp", .file ⟨#[0xFF]⟩)]

/-- The listing of the three sources. -/
def threeListing : Listing where
  files :=
    [
      { path := "./a.cpp", relativePath := "a.cpp", size := 22 },
      { path := "./b.cpp", relativePath := "b.cpp", size := 15 },
      { path := "./c.cpp", relativePath := "c.cpp", size := 1 }
    ]

/-- The settings of a run that skips what is no text and has to make its output directory. -/
def lenient : Config where
  scan := { skipUnreadable := true }
  output := { directory := "out" }

/-- The three literals of three sources are rendered in a new directory. -/
theorem run_renders_three_sources
    : (ofSettings lenient).config.check threeSources = .ok ()
      ∧ (Walker.ofSettings lenient.scan).list threeSources "." = .ok threeListing
      ∧ ∃ report,
          ((ofSettings lenient).run threeSources "." default).result = .ok report
          ∧ report.summary.nextIndex = 3
          ∧ 0 + report.summary.casesWritten < CaseNumber.bound
          ∧ (ofSettings lenient).Separate ((ofSettings lenient).prepared threeSources) threeListing
              report.summary.firstIndex report.summary.nextIndex
          ∧ (ofSettings lenient).Renders threeSources "." default threeListing report := by
  have accepted : (ofSettings lenient).config.check threeSources = .ok () :=
    Config.check_eq_ok_iff.mpr
      ⟨by decide, rfl, by decide, by decide, by decide, by decide +kernel⟩
  have listed : (Walker.ofSettings lenient.scan).list threeSources "." = .ok threeListing :=
    eq_ok_of_toOption (by decide +kernel)
  have usable : (ofSettings lenient).config.scan.marker.checkSearch = .ok () :=
    Marker.checkSearch_default
  obtain ⟨p, ended, counted⟩
      : ∃ p, ((ofSettings lenient).collect threeSources threeListing).result = .ok p
          ∧ (p.firstIndex, p.nextIndex, p.casesWritten) = (0, 3, 3) := by
    rw [collect_of_checkSearch usable]
    exact exists_ok_of_toOption (by decide +kernel)
  obtain ⟨first, counted⟩ := Prod.mk.inj counted
  obtain ⟨next, count⟩ := Prod.mk.inj counted
  have ok : ((ofSettings lenient).run threeSources "." default).result = .ok _ :=
    (run_result_eq_ok_iff listed).mpr ⟨p, ended, rfl⟩
  have separate
      : (ofSettings lenient).Separate ((ofSettings lenient).prepared threeSources) threeListing
          p.firstIndex p.nextIndex := by
    rw [first, next]
    exact separate_of_forall_lt (by decide +kernel)
  have fits : 0 + p.casesWritten < CaseNumber.bound := by
    rw [count]
    decide
  exact ⟨accepted, listed, _, ok, next, fits, separate,
    run_renders accepted rfl listed ok fits separate⟩

/-- A source with two literals, and a directory in which the first case would be a link to the
second.
-/
def linkedCases : Tree :=
  (Tree.ofTop [
    ("in.cpp", .file "R\"(\nx\n)\";\nR\"(\ny\n)\";\n".toUTF8),
    ("out", .directory)]).insert
    [⟨"test0.sol", by decide⟩, ⟨"out", by decide⟩] (.link "test1.sol")

/-- The listing of the source with two literals. -/
def linkedListing : Listing where
  files := [{ path := "in.cpp", relativePath := "in.cpp", size := 20 }]

/-- The settings of a run that leads to that directory through one which it has to make. -/
def detour : Config where
  output := { directory := "a/../out" }

/-- It is not enough that cases are separate before the output directory has been made: while a
directory on the way to it is missing, no link below it is found.
-/
theorem not_run_renders_unprepared
    : ¬ ∀ (e : Extraction) (t : Tree) (root : String) (clock : Clock) (listing : Listing)
          (report : Report),
          e.config.check t = .ok () →
          e.dryRun = false →
          (Walker.ofSettings e.config.scan).list t root = .ok listing →
          (e.run t root clock).result = .ok report →
          e.Separate t listing report.summary.firstIndex report.summary.nextIndex →
          e.Renders t root clock listing report := by
  intro always
  have accepted : (ofSettings detour).config.check linkedCases = .ok () :=
    Config.check_eq_ok_iff.mpr
      ⟨by decide, rfl, by decide, by decide, by decide, by decide +kernel⟩
  have listed : (Walker.ofSettings {}).list linkedCases "in.cpp" = .ok linkedListing :=
    eq_ok_of_toOption (by decide +kernel)
  have usable : (ofSettings detour).config.scan.marker.checkSearch = .ok () :=
    Marker.checkSearch_default
  obtain ⟨p, ended, counted⟩
      : ∃ p, ((ofSettings detour).collect linkedCases linkedListing).result = .ok p
          ∧ (p.firstIndex, p.nextIndex) = (0, 2) := by
    rw [collect_of_checkSearch usable]
    exact exists_ok_of_toOption (by decide +kernel)
  obtain ⟨first, next⟩ := Prod.mk.inj counted
  have ok : ((ofSettings detour).run linkedCases "in.cpp" default).result = .ok _ :=
    (run_result_eq_ok_iff listed).mpr ⟨p, ended, rfl⟩
  have separate : (ofSettings detour).Separate linkedCases linkedListing p.firstIndex p.nextIndex := by
    rw [first, next]
    exact separate_of_forall_lt (by decide +kernel)
  have renders := always (ofSettings detour) linkedCases "in.cpp" default linkedListing _ accepted rfl
    listed ok separate
  have firstLiteral
      : (linkedCases.literalsOfAll {} linkedListing.files)[0]?
        = some (⟨"in.cpp", "in.cpp", 20⟩, ⟨"", 1, "x\n"⟩) := by
    decide +kernel
  have written := renders.contents 0 _ _ firstLiteral
  rw [run_tree listed, collect_of_checkSearch usable] at written
  have texts := congrArg Except.toOption written
  revert texts
  decide +kernel

end Casebook.Extraction
