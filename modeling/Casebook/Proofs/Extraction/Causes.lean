import Casebook.Proofs.Collector.Stopped
import Casebook.Proofs.Extraction.FailFast
import Casebook.Proofs.Extraction.NoOverwrite
import Casebook.Proofs.Marker.Pattern
import Casebook.Proofs.Walk.Skipping

/-! What stops a run. Settings that were accepted do not, and each of the failures that are left has
its own causes: what cannot be read, a literal that is left open, and what cannot be written.
-/

namespace Casebook

namespace Collector

/-- A source cannot be collected, for what is in the tree that this leaves: it cannot be read, it
leaves a literal open, or one of its cases cannot be written. A case is kept from being written by
what is there already or by the lack of a place for a file, or it is broken off, and then its file
holds what was taken of it.
-/
inductive Refuses (k : Collector) (file : Source) (left : Tree) : Failure → Prop
  | unread {cause} (refused : k.skipUnreadable = false)
    (unread : left.readText file.path = .error cause)
    : k.Refuses file left (.unreadableInput file.path cause)
  | opened {u} (refused : k.strict = true) (opens : left.openLiteral? k.marker file = some u)
    : k.Refuses file left (.unterminatedLiteral file.path u.line u.delimiter)
  | inTheWay {index} (real : k.writer.dryRun = false) (refused : k.writer.overwrite = false)
    (there : left.pathExists (k.writer.casePath index) = true)
    : k.Refuses file left (.outputFileExists (k.writer.casePath index))
  | noPlace {index cause} (real : k.writer.dryRun = false)
    (noPlace : left.fileTarget (k.writer.casePath index) = .error cause)
    : k.Refuses file left (.writeFailure (k.writer.casePath index) cause)
  | brokenOff {index q} {content : String} {fault : Tree.Fault} (real : k.writer.dryRun = false)
    (faulty : ¬ left.TakesAll)
    (cut
      : left.stat (k.writer.casePath index)
        = .ok (q, .file (content.toUTF8.extract 0 fault.taken)))
    : k.Refuses file left (.writeFailure (k.writer.casePath index) fault.cause)

variable {k : Collector} {file : Source} {counter : Nat} {s last : Collecting} {failure : Failure}

/-- Literals are written until one cannot be, and what is in its way then is still there. -/
theorem LiteralsWritten.refuses {ls : List Literal}
    (writes : k.LiteralsWritten file ls s (.error failure) last)
    : k.Refuses file last.tree failure := by
  cases writes with
  | stopped _ _ failed =>
    cases CaseWriter.caseWritten_of_eq failed with
    | inTheWay real keeps there => exact .inTheWay real keeps there
    | noPlace real noPlace => exact .noPlace real noPlace
    | brokenOff real puts faulty =>
      refine .brokenOff real (fun takes => faulty ?_) puts.stat_casePath
      exact takes.congr puts.filesWritten.medium.symm

/-- A source that cannot be read or leaves a literal open leaves the tree as it was, so that it is
still refused there.
-/
theorem refuses_of_collectFile (next : s.progress.nextIndex = counter)
    (failed : k.collectFile file counter s = (.error failure, last))
    : k.Refuses file last.tree failure := by
  cases fileCollected_of_eq next failed with
  | unread refuses unread => exact .unread refuses unread
  | leftOpen strict read left =>
    refine .opened strict ?_
    rw [Tree.openLiteral?, read]
    exact left
  | written _ _ _ next _ _ writes => exact (literalsWritten_of_eq next writes).refuses

end Collector

namespace Extraction

/-- What stops a run, with what holds then of the tree that it begins in and of the tree that it
leaves. These are all the failures there are, and each needs the settings that do not rule it out.
-/
inductive StopsFor (e : Extraction) (t : Tree) (root : String) (left : Tree) : Failure → Prop
  | root {cause} (missing : t.stat root = .error cause)
    : e.StopsFor t root left (.unreadableInput root cause)
  | entry {path cause} (refused : e.config.scan.skipUnreadable = false)
    (met : (Walker.ofSettings e.config.scan).CannotRead t root path cause)
    : e.StopsFor t root left (.unreadableInput path cause)
  | source {listing file cause} (refused : e.config.scan.skipUnreadable = false)
    (listed : (Walker.ofSettings e.config.scan).list t root = .ok listing)
    (member : file ∈ listing.files) (unread : left.readText file.path = .error cause)
    : e.StopsFor t root left (.unreadableInput file.path cause)
  | openLiteral {listing file u} (refused : e.config.scan.strict = true)
    (listed : (Walker.ofSettings e.config.scan).list t root = .ok listing)
    (member : file ∈ listing.files)
    (opens : left.openLiteral? e.config.scan.marker file = some u)
    : e.StopsFor t root left (.unterminatedLiteral file.path u.line u.delimiter)
  | directory {cause} (real : e.dryRun = false)
    (missing : t.pathExists e.config.output.directory = false)
    (unmade : (t.makeDirectories e.config.output.directory).1 = .error cause)
    : e.StopsFor t root left (.writeFailure e.config.output.directory cause)
  | noPlace {index cause} (real : e.dryRun = false)
    (noPlace : left.fileTarget (e.writer.casePath index) = .error cause)
    : e.StopsFor t root left (.writeFailure (e.writer.casePath index) cause)
  | brokenOff {index q} {content : String} {fault : Tree.Fault} (real : e.dryRun = false)
    (faulty : ¬ left.TakesAll)
    (cut
      : left.stat (e.writer.casePath index)
        = .ok (q, .file (content.toUTF8.extract 0 fault.taken)))
    : e.StopsFor t root left (.writeFailure (e.writer.casePath index) fault.cause)
  | inTheWay {index} (real : e.dryRun = false) (refused : e.config.output.overwrite = false)
    (there : left.pathExists (e.writer.casePath index) = true)
    : e.StopsFor t root left (.outputFileExists (e.writer.casePath index))

variable {e : Extraction} {t : Tree} {root : String} {clock : Clock} {failure : Failure}

/-- A source that cannot be collected stops a run that has listed it. -/
theorem stopsFor_of_refuses {listing : Listing} {file : Source} {left : Tree}
    (listed : (Walker.ofSettings e.config.scan).list t root = .ok listing)
    (member : file ∈ listing.files) (refuses : e.collector.Refuses file left failure)
    : e.StopsFor t root left failure := by
  cases refuses with
  | unread refused unread => exact .source refused listed member unread
  | opened refused opens => exact .openLiteral refused listed member opens
  | inTheWay real refused there => exact .inTheWay real refused there
  | noPlace real noPlace => exact .noPlace real noPlace
  | brokenOff real faulty cut => exact .brokenOff real faulty cut

/-- Settings that were accepted, in whatever tree, and whose marker can be looked for do not stop a
run. So a run that fails could not read its root, an entry or a source, was strict about a literal
that a source leaves open, or was no dry run and could not make its directory, write a case or
overwrite what stands at its path.
-/
theorem run_stops_for {accepted : Tree} (valid : e.config.check accepted = .ok ())
    {pattern : Pattern}
    (compiles : Pattern.ofText e.config.scan.marker.openingPattern = .ok pattern)
    (failed : (e.run t root clock).result = .error failure)
    : e.StopsFor t root (e.run t root clock).tree failure := by
  have sound : e.config.scan.marker.fault? = none := (Config.check_eq_ok_iff.mp valid).1
  have usable : e.config.scan.marker.checkSearch = .ok () := by
    rw [Marker.ofText_openingPattern sound] at compiles
    cases large : e.config.scan.marker.isTooLarge with
    | true =>
      rw [large] at compiles
      cases compiles
    | false =>
      rw [Marker.checkSearch, Marker.check, sound, large]
      rfl
  have same {cause : Failure} (stopped : (e.run t root clock).result = .error cause)
      : cause = failure :=
    Except.error.inj (stopped.symm.trans failed)
  obtain ⟨course, tree⟩ := e.course t root clock
  rw [tree]
  cases course with
  | unlisted refused stopped =>
    obtain rfl := same stopped
    rcases Walker.list_eq_error refused with ⟨cause, missing, rfl⟩ | ⟨refuses, path, cause, met, rfl⟩
    · exact .root missing
    · exact .entry refuses met
  | unusable _ refused =>
    rw [ofConfig_eq, usable] at refused
    cases refused
  | unprepared _ _ refused stopped =>
    obtain rfl := same stopped
    obtain ⟨real, missing, cause, rfl, unmade⟩ := CaseWriter.prepare_eq_error refused
    exact .directory real missing unmade
  | @collected listing listed _ _ collects ends =>
    rw [run_result_eq_error_iff listed, collects] at failed
    obtain ⟨before, file, behind, parts, stops, -⟩ :=
      Collector.exists_failed_of_collectRest (e.nextIndex_begun t listing) failed
    have refuses := Collector.refuses_of_collectFile rfl stops
    rw [← ends] at refuses
    have member : file ∈ listing.files := parts ▸ List.mem_append_right _ List.mem_cons_self
    exact stopsFor_of_refuses listed member refuses

/-- A run that may overwrite nothing stops for a case that is there, and a run that skips nothing
for a source that is no text.
-/
theorem run_stops_for_case_and_source
    : ((ofSettings careful).run linkedCases "in.cpp" default).result
        = .error (.outputFileExists "out/test1.sol")
      ∧ (ofSettings careful).StopsFor linkedCases "in.cpp"
          ((ofSettings careful).run linkedCases "in.cpp" default).tree
          (.outputFileExists "out/test1.sol")
      ∧ ((ofSettings unforgiving).run threeSources "." default).result
        = .error (.unreadableInput "./c.cpp" .invalidText)
      ∧ (ofSettings unforgiving).StopsFor threeSources "."
          ((ofSettings unforgiving).run threeSources "." default).tree
          (.unreadableInput "./c.cpp" .invalidText) := by
  have compiles := Marker.ofText_openingPattern_default
  have validCareful : (ofSettings careful).config.check linkedCases = .ok () :=
    Config.check_eq_ok_iff.mpr
      ⟨by decide, rfl, by decide, by decide, by decide, by decide +kernel⟩
  have validUnforgiving : (ofSettings unforgiving).config.check threeSources = .ok () :=
    Config.check_eq_ok_iff.mpr
      ⟨by decide, rfl, by decide, by decide, by decide, by decide +kernel⟩
  have linked : (Walker.ofSettings careful.scan).list linkedCases "in.cpp" = .ok linkedListing :=
    eq_ok_of_toOption (by decide +kernel)
  have listed : (Walker.ofSettings unforgiving.scan).list threeSources "." = .ok threeListing :=
    eq_ok_of_toOption (by decide +kernel)
  have inTheWay : ((ofSettings careful).run linkedCases "in.cpp" default).result
      = .error (.outputFileExists "out/test1.sol") := by
    rw [run_result_eq_error_iff linked, collect_of_checkSearch Marker.checkSearch_default]
    decide +kernel
  have unread : ((ofSettings unforgiving).run threeSources "." default).result
      = .error (.unreadableInput "./c.cpp" .invalidText) := by
    rw [run_result_eq_error_iff listed, collect_of_checkSearch Marker.checkSearch_default]
    decide +kernel
  exact ⟨inTheWay, run_stops_for validCareful compiles inTheWay, unread,
    run_stops_for validUnforgiving compiles unread⟩

end Extraction

end Casebook
