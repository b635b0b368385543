import Casebook.Walk

/-! What a listing says of the tree. Every source of a listing was met on the walk and found at
its path.
-/

namespace Casebook.Walker

theorem Verdict.source?_eq_some_iff {verdict : Verdict} {file : Source}
    : verdict.source? = some file ↔ verdict = .source file := by
  cases verdict <;> simp [source?]

/-- Nothing is complained of exactly if nothing fails. -/
theorem Verdict.noFailure_iff_noComplaint {verdicts : List Verdict}
    : verdicts.findSome? failure? = none ↔ verdicts.filterMap complaint? = [] := by
  rw [List.findSome?_eq_none_iff, List.filterMap_eq_nil_iff]
  refine forall₂_congr fun verdict _ => ?_
  cases verdict <;> simp [complaint?, failure?]

variable {w : Walker} {t : Tree}

/-- A file that is judged to be a source is found at its path. -/
theorem found_of_judgeFile {rootIsDirectory : Bool} {path relativePath : String} {file : Source}
    (source : w.judgeFile t rootIsDirectory path relativePath = .source file)
    : file.path = path ∧ ∃ place entry, t.stat path = .ok (place, entry) := by
  unfold judgeFile at source
  split at source
  next => cases source
  next =>
    split at source
    next place bytes found =>
      cases source
      exact ⟨rfl, place, .file bytes, found⟩
    next found _ statOk =>
      cases source
      exact ⟨rfl, found.1, found.2, statOk⟩
    next => cases source

/-- What is judged to be a source is found at its path, whatever the walk met there. -/
theorem found_of_judge {rootIsDirectory : Bool} {visit : Visit} {file : Source}
    (source : w.judge t rootIsDirectory visit = .source file)
    : ∃ place entry, t.stat file.path = .ok (place, entry) := by
  cases visit with
  | directory => cases source
  | file path relativePath =>
    obtain ⟨rfl, found⟩ := found_of_judgeFile source
    exact found
  | link path relativePath =>
    rw [judge] at source
    split at source
    next =>
      obtain ⟨rfl, found⟩ := found_of_judgeFile source
      exact found
    next => cases source
  | unreadable => cases source
  | loop => cases source

/-- Every source of a listing is the verdict on something that the walk met. -/
theorem exists_visit_of_listed {root : String} {listing : Listing}
    (listed : w.list t root = .ok listing) {file : Source} (member : file ∈ listing.files)
    : ∃ rootIsDirectory, ∃ visit ∈ w.visits t root,
        w.judge t rootIsDirectory visit = .source file := by
  unfold list at listed
  split at listed
  next => cases listed
  next place entry found =>
    dsimp only at listed
    split at listed
    next => cases listed
    next =>
      cases listed
      obtain ⟨verdict, verdicts, isSource⟩ := List.mem_filterMap.mp member
      obtain ⟨visit, visited, rfl⟩ := List.mem_map.mp verdicts
      exact ⟨_, visit, visited, Verdict.source?_eq_some_iff.mp isSource⟩

/-- Every source of a listing is found at its path. -/
theorem found_of_listed {root : String} {listing : Listing}
    (listed : w.list t root = .ok listing) {file : Source} (member : file ∈ listing.files)
    : ∃ place entry, t.stat file.path = .ok (place, entry) := by
  obtain ⟨_, _, -, source⟩ := exists_visit_of_listed listed member
  exact found_of_judge source

end Casebook.Walker
