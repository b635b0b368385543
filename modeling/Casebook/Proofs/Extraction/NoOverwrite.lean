import Casebook.Proofs.Extraction.Contents
import Casebook.Proofs.Extraction.Course

/-! Runs that may overwrite nothing. That something is in the way of a case is looked up before
the case is written, and both follow links; still the case is written where nothing stood, since
both follow the same way. A case that went through a link stands in the way of later ones.
-/

namespace Casebook.Extraction

/-- All that stood in the first tree stands in the second, and every path that led to something
leads to the same.
-/
structure Keeps (t after : Tree) : Prop where
  places : ∀ q entry, t.get? q = some entry → after.get? q = some entry
  paths : ∀ path q entry, t.stat path = .ok (q, entry) → after.stat path = .ok (q, entry)

/-- Each case of a run stands, with its content, where nothing stood before the run and where no
other case of the run was written.
-/
structure EachOnce (e : Extraction) (t after : Tree) (written : List (Source × Literal))
    : Prop where
  fresh
    : ∀ n file l, written[n]? = some (file, l) →
        ∃ q,
          t.get? q = none
          ∧ after.stat
                (e.writer.casePath (CaseNumber.after e.config.output.startIndex n))
            = .ok (q, .file l.content.toUTF8)
  apart
    : ∀ m n, m < n → n < written.length →
        after.destination? (e.writer.casePath (CaseNumber.after e.config.output.startIndex m))
        ≠ after.destination? (e.writer.casePath (CaseNumber.after e.config.output.startIndex n))

variable {e : Extraction} {t : Tree} {root : String} {written : List (Source × Literal)}

theorem Writes.keeps (writes : e.Writes t root written) (keeps : e.config.output.overwrite = false)
    : Keeps t (e.ended t root).tree := by
  obtain ⟨s, _, begins, leaves⟩ := writes
  have made := begins.madeAlong.directoriesMade
  have places (q : Tree.Location) (entry : Tree.Entry) (stands : t.get? q = some entry)
      : (e.ended t root).tree.get? q = some entry :=
    leaves.get?_of_not_overwrite keeps (made.get? stands)
  refine ⟨places, fun path q entry found => ?_⟩
  obtain ⟨leads, stands⟩ := Tree.stat_eq_ok_iff.mp found
  exact leaves.filesWritten.stat_eq_ok (made.widens.destination? leads) (places q entry stands)

theorem Writes.eachOnce (writes : e.Writes t root written) (real : e.dryRun = false)
    (keeps : e.config.output.overwrite = false)
    : e.EachOnce t (e.ended t root).tree written := by
  obtain ⟨s, _, begins, leaves⟩ := writes
  have target (n : Nat)
      : (e.ended t root).tree.destination?
            (e.writer.casePath (CaseNumber.after e.config.output.startIndex n))
        = e.collector.target? s n := by
    rw [leaves.filesWritten.destination?_eq, ← begins.nextIndex]
    rfl
  refine ⟨fun n file l listed => ?_, fun m n before inRange same => ?_⟩
  · obtain ⟨q, absent, found⟩ := leaves.stat_casePath_of_not_overwrite real keeps listed
    rw [begins.nextIndex] at found
    refine ⟨q, ?_, found⟩
    -- Had anything stood there before the directories were made, it would stand there still.
    cases stood : t.get? q with
    | none => rfl
    | some entry =>
      rw [begins.madeAlong.directoriesMade.get? stood] at absent
      cases absent
  · rw [target, target] at same
    obtain ⟨last, reached, -⟩ := leaves.exists_reaches
    obtain ⟨q, leads⟩ := reached.exists_target real inRange
    exact reached.target?_ne_of_not_overwrite real keeps before inRange (same.trans leads) leads

/-- A run that may overwrite nothing keeps all that there was, whatever links lead where and however
it ends, and writes each of its cases once, to a new file.
-/
theorem run_overwrites_nothing (e : Extraction) (t : Tree) (root : String) (clock : Clock)
    (keeps : e.config.output.overwrite = false)
    : Keeps t (e.run t root clock).tree
      ∧ ∃ written,
          e.Writes t root written
          ∧ (e.dryRun = false → e.EachOnce t (e.run t root clock).tree written) := by
  rw [(e.course t root clock).2]
  obtain ⟨written, writes⟩ := e.exists_writes t root
  exact ⟨writes.keeps keeps, written, writes, fun real => writes.eachOnce real keeps⟩

/-- The settings of a run that may overwrite nothing. -/
def careful : Config where
  output := { directory := "out", overwrite := false }

/-- A case that is written through a link to the place of the next one is not overwritten: the run
stops there.
-/
theorem run_overwrites_nothing_linked
    : (ofSettings careful).config.output.overwrite = false
      ∧ Keeps linkedCases ((ofSettings careful).run linkedCases "in.cpp" default).tree
      ∧ ((ofSettings careful).run linkedCases "in.cpp" default).tree.readText "out/test1.sol"
        = .ok "x\n"
      ∧ ∃ written,
          (ofSettings careful).Writes linkedCases "in.cpp" written
          ∧ (ofSettings careful).EachOnce linkedCases
              ((ofSettings careful).run linkedCases "in.cpp" default).tree written := by
  obtain ⟨keeps, written, writes, once⟩ :=
    run_overwrites_nothing (ofSettings careful) linkedCases "in.cpp" default rfl
  refine ⟨rfl, keeps, ?_, written, writes, once rfl⟩
  have listed : (Walker.ofSettings {}).list linkedCases "in.cpp" = .ok linkedListing :=
    eq_ok_of_toOption (by decide +kernel)
  have usable : (ofSettings careful).config.scan.marker.checkSearch = .ok () :=
    Marker.checkSearch_default
  rw [run_tree listed, collect_of_checkSearch usable]
  exact eq_ok_of_toOption (by decide +kernel)

end Casebook.Extraction
