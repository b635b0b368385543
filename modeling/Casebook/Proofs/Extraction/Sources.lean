import Casebook.Proofs.Evaluation
import Casebook.Proofs.Extraction.Parts

/-! What a run does to its sources. It only writes cases, so a source changes only where a case
is written over it.
-/

namespace Casebook.Extraction

variable {e : Extraction} {t : Tree} {root : String} {listing : Listing}

/-- A run wrote a literal of a listed source as the case with a number: it was written on the way
to the tree that the run leaves, however it ended, and a report lists it.
-/
structure Wrote (e : Extraction) (t : Tree) (root : String) (clock : Clock) (listing : Listing)
    (source : Source) (l : Literal) (index : Nat)
    : Prop where
  listed : source ∈ listing.files
  written
    : ∃ written broken? last n,
        e.collector.Leaves (e.begun t listing) written broken? last
        ∧ (e.run t root clock).tree = last.tree
        ∧ written[n]? = some (source, l)
        ∧ index = CaseNumber.after e.config.output.startIndex n
  reported
    : ∀ report, (e.run t root clock).result = .ok report →
        e.collector.recordOf source index l l.content.utf8ByteSize ∈ report.cases

/-- A run was broken off at a literal of a listed source, which was to be the case with a number. It
had written its other cases before.
-/
structure BrokeOff (e : Extraction) (t : Tree) (root : String) (clock : Clock) (listing : Listing)
    (source : Source) (l : Literal) (index : Nat)
    : Prop where
  listed : source ∈ listing.files
  faulty : ¬ t.TakesAll
  left
    : ∃ written last,
        e.collector.Leaves (e.begun t listing) written (some (source, l)) last
        ∧ (e.run t root clock).tree = last.tree
        ∧ index = CaseNumber.after e.config.output.startIndex written.length

/-- A file is what a run has made of it: it holds the content of a case that the run wrote, whose
path leads there. Where not all bytes are taken it may hold instead the first bytes of the literal
at which the run was broken off.
-/
inductive WrittenOver (e : Extraction) (t : Tree) (root : String) (clock : Clock)
    (listing : Listing) (place : Tree.Location)
    : Prop
  | case {source l index} (wrote : e.Wrote t root clock listing source l index)
    (found
      : (e.run t root clock).tree.stat (e.writer.casePath index)
        = .ok (place, .file l.content.toUTF8))
  | brokenOff {source l index taken} (brokeOff : e.BrokeOff t root clock listing source l index)
    (found
      : (e.run t root clock).tree.stat (e.writer.casePath index)
        = .ok (place, .file (l.content.toUTF8.extract 0 taken)))

/-- A run that collects its sources changes no more than files. What stood at a location when it began
stands there when it ends, or is what the run has made of it.
-/
theorem kept_or_writtenOver (clock : Clock)
    (listed : (Walker.ofSettings e.config.scan).list t root = .ok listing)
    (collects
      : e.collect t listing
        = e.collector.collectRest listing.files e.config.output.startIndex (e.begun t listing))
    : (e.begun t listing).tree.FilesWritten (e.run t root clock).tree
      ∧ ∀ place entry,
          (e.begun t listing).tree.get? place = some entry →
          (e.run t root clock).tree.get? place = some entry
          ∨ e.config.output.overwrite = true
            ∧ e.dryRun = false
            ∧ e.WrittenOver t root clock listing place := by
  obtain ⟨written, broken?, ends, ofFiles, brokenOfFiles⟩ :=
    Collector.endOf_leaves (k := e.collector) listing.files (e.nextIndex_begun t listing)
  obtain ⟨tree, result⟩ :=
    Collector.collectRest_eq_endOf (k := e.collector) listing.files e.config.output.startIndex
      (e.begun t listing)
  have leaves
      : (e.run t root clock).tree
        = (e.collector.endOf listing.files e.config.output.startIndex (e.begun t listing)).tree := by
    rw [run_tree listed, collects, tree]
  have files : (e.begun t listing).tree.FilesWritten (e.run t root clock).tree :=
    leaves ▸ ends.filesWritten
  refine ⟨files, fun place entry stands => ?_⟩
  cases dryRun : e.dryRun with
  | true =>
    rw [leaves, ends.tree_eq dryRun]
    exact .inl stands
  | false =>
  -- Something stands at the location, so what is written there overwrites it.
  have overwrites
      (allowed : e.config.output.overwrite = true ∨ (e.begun t listing).tree.get? place = none)
      : e.config.output.overwrite = true :=
    allowed.resolve_right fun absent => nomatch absent.symm.trans stands
  rcases ends.lastAt_or_kept dryRun place
    with ⟨n, source, l, lastAt⟩ | ⟨-, kept⟩ | ⟨source, l, broken⟩
  · have wrote : e.Wrote t root clock listing source l
        (CaseNumber.after e.config.output.startIndex n) := by
      refine ⟨ofFiles _ (List.mem_of_getElem? lastAt.listed),
        ⟨written, broken?, _, n, ends, leaves, lastAt.listed, rfl⟩, fun report ok => ?_⟩
      obtain ⟨p, ended, rfl⟩ := (run_result_eq_ok_iff listed).mp ok
      rw [collects] at ended
      obtain rfl := result p ended
      obtain ⟨last, reached, sameProgress⟩ := ends.exists_reaches
      rw [sameProgress]
      exact reached.recordOf_mem_cases lastAt.listed
    have found := files.stat_eq_ok lastAt.target (leaves ▸ lastAt.stands)
    exact .inr ⟨overwrites lastAt.allowed, rfl, .case wrote found⟩
  · exact .inl (leaves ▸ kept.trans stands)
  · obtain ⟨taken, held⟩ := broken.stands
    have brokeOff : e.BrokeOff t root clock listing source l
        (CaseNumber.after e.config.output.startIndex written.length) := by
      refine ⟨brokenOfFiles _ broken.isBroken, fun takes => ?_, written, _, ?_, leaves, rfl⟩
      · exact broken.faulty (takes.congr (e.writer.prepare_directoriesMade t).medium)
      · rw [← broken.isBroken]
        exact ends
    have found := files.stat_eq_ok broken.target (leaves ▸ held)
    exact .inr ⟨overwrites broken.allowed, rfl, .brokenOff brokeOff found⟩

/-- Every source of a run is found before the run, and it is found after the run as it was,
however the run ends, unless cases may overwrite what exists and the path of a case leads to the
source. Then the source holds the content of a case that the run wrote, or, only where not all
bytes of an open file are taken, the first bytes of the literal at which the run was broken off.
-/
theorem run_keeps_source (clock : Clock)
    (listed : (Walker.ofSettings e.config.scan).list t root = .ok listing) {file : Source}
    (member : file ∈ listing.files)
    : ∃ place entry,
        t.stat file.path = .ok (place, entry)
        ∧ ((e.run t root clock).tree.stat file.path = .ok (place, entry)
          ∨ e.config.output.overwrite = true
            ∧ e.dryRun = false
            ∧ e.WrittenOver t root clock listing place) := by
  obtain ⟨place, entry, found⟩ := Walker.found_of_listed listed member
  refine ⟨place, entry, found, ?_⟩
  have made : (e.begun t listing).tree.stat file.path = .ok (place, entry) := stat_prepared found
  have leaves : (e.run t root clock).tree = (e.collect t listing).tree := run_tree listed
  rcases collect_eq e t listing with ⟨failure, same⟩ | ⟨failure, same⟩ | collects
  · rw [leaves, same]
    exact .inl found
  · rw [leaves, same]
    exact .inl made
  · obtain ⟨files, keeps⟩ := kept_or_writtenOver clock listed collects
    obtain ⟨leads, stands⟩ := Tree.stat_eq_ok_iff.mp made
    exact (keeps place entry stands).imp_left (files.stat_eq_ok leads)

/-- A source that holds one literal and stands alone, below the top. -/
def loneSource (name : String) : Tree :=
  .ofTop [(name, .file "R\"(\nx\n)\";\n".toUTF8)]

/-- The listing of a source that stands alone. -/
def loneListing (name : String) : Listing where
  files := [{ path := name, relativePath := name, size := 10 }]

/-- Two sources with a literal each, the second with the name that a first case may have. -/
def twoSources : Tree :=
  .ofTop [
    ("a.cpp", .file "R\"(\nx\n)\";\n".toUTF8),
    ("b0.cpp", .file "R\"(\ny\n)\";\n".toUTF8)]

/-- The listing of the two sources. -/
def twoListing : Listing where
  files :=
    [
      { path := "./a.cpp", relativePath := "a.cpp", size := 10 },
      { path := "./b0.cpp", relativePath := "b0.cpp", size := 10 }
    ]

/-- The settings of a run that names its first case like the second of these sources. -/
def alongside (overwrite : Bool) : Config where
  output := { stem := "b", extension := "cpp", overwrite := overwrite }

/-- Where cases may not overwrite what exists, both sources are found as they were. Where they may,
the first source is found as it was, and the second is the case that was written over it.
-/
theorem run_keeps_source_two_sources
    : ((Walker.ofSettings {}).list twoSources "." = .ok twoListing)
      ∧ (∀ file ∈ twoListing.files,
          ((ofSettings (alongside false)).run twoSources "." default).tree.stat file.path
          = twoSources.stat file.path)
      ∧ ((ofSettings (alongside true)).run twoSources "." default).tree.stat "./a.cpp"
        = twoSources.stat "./a.cpp"
      ∧ ∃ place,
          (twoSources.stat "./b0.cpp").map Prod.fst = .ok place
          ∧ (ofSettings (alongside true)).WrittenOver twoSources "." default twoListing place
          ∧ ((ofSettings (alongside true)).run twoSources "." default).tree.readText "./b0.cpp"
            = .ok "x\n" := by
  have listed : (Walker.ofSettings {}).list twoSources "." = .ok twoListing :=
    eq_ok_of_toOption (by decide +kernel)
  have leaves (overwrite : Bool)
      : ((ofSettings (alongside overwrite)).run twoSources "." default).tree
        = ((ofSettings (alongside overwrite)).collector.collectFiles twoSources twoListing.files
            0).tree := by
    rw [run_tree listed, collect_of_checkSearch Marker.checkSearch_default]
    rfl
  refine ⟨listed, fun file member => ?_, ?_, ?_⟩
  · obtain ⟨place, entry, found, same | ⟨overwrites, -⟩⟩ :=
      run_keeps_source (e := ofSettings (alongside false)) default listed member
    · exact same.trans found.symm
    · cases overwrites
  · rw [leaves]
    decide +kernel
  · obtain ⟨place, entry, found, same | ⟨-, -, written⟩⟩ :=
      run_keeps_source (e := ofSettings (alongside true)) default listed
        (List.getElem_mem (l := twoListing.files) (n := 1) (by decide))
    · rw [leaves, ← found] at same
      exact absurd same (by decide +kernel)
    · refine ⟨place, congrArg (Except.map Prod.fst) found, written, ?_⟩
      rw [leaves]
      exact eq_ok_of_toOption (by decide +kernel)

/-- Not every source is kept: a source with the name of the first case is overwritten by it, with
the settings that a run starts from.
-/
theorem not_run_keeps_every_source
    : ¬ ∀ (e : Extraction) (t : Tree) (root : String) (clock : Clock) (listing : Listing),
          e.config.check t = .ok () →
          (Walker.ofSettings e.config.scan).list t root = .ok listing →
          ∀ file ∈ listing.files,
            (e.run t root clock).tree.readText file.path = t.readText file.path := by
  intro always
  have accepted : ({} : Config).check (loneSource "test0.sol") = .ok () :=
    Config.check_eq_ok_iff.mpr
      ⟨by decide, rfl, by decide, by decide, by decide, by decide +kernel⟩
  have listed : (Walker.ofSettings {}).list (loneSource "test0.sol") "test0.sol"
      = .ok (loneListing "test0.sol") :=
    eq_ok_of_toOption (by decide +kernel)
  have same := always (ofSettings {}) (loneSource "test0.sol") "test0.sol" default
    (loneListing "test0.sol") accepted listed _ List.mem_cons_self
  rw [run_tree listed, collect_of_checkSearch Marker.checkSearch_default] at same
  have texts := congrArg Except.toOption same
  revert texts
  decide +kernel

end Casebook.Extraction
