import Casebook.Proofs.Walk.Links

/-! The order of a listing. Whatever a walk does about links and unreadable entries, it comes to
entries in the order of their names below the root, so its sources are in the order of their paths
and no two have the same one.
-/

namespace Casebook

/-- The path below the root of what may be a source. -/
def Visit.relativePath? : Visit → Option String
  | .file _ relativePath | .link _ relativePath => some relativePath
  | .directory _ | .unreadable .. | .loop .. => none

namespace Walker

/-- What may be a source among some visits has names that go on from given ones, in order. -/
def InOrderBelow (names : List Tree.Name) (visits : List Visit) : Prop :=
  ∃ ends : List (List Tree.Name),
    visits.filterMap Visit.relativePath? = ends.map (fun rest => Path.ofNames (names ++ rest))
    ∧ ends.Pairwise fun a b =>
        a.map (fun n => Text.bytes n.text) < b.map (fun n => Text.bytes n.text)

variable {w : Walker} {t : Tree} {names : List Tree.Name} {visits : List Visit} {root : String}
  {place : Tree.Location}

/-- What is no source does not count. -/
theorem InOrderBelow.cons {visit : Visit} (other : visit.relativePath? = none)
    (inOrder : InOrderBelow names visits)
    : InOrderBelow names (visit :: visits) := by
  obtain ⟨ends, same, ordered⟩ := inOrder
  exact ⟨ends, by rw [List.filterMap_cons_none other, same], ordered⟩

/-- The names right below a directory are in order, so what is in order below each of them is in
order below the directory.
-/
theorem InOrderBelow.children {visits : Tree.Name → List Visit}
    (each : ∀ n, InOrderBelow (names ++ [n]) (visits n))
    : InOrderBelow names ((t.children place).flatMap visits) := by
  choose ends same ordered using each
  refine ⟨(t.children place).flatMap fun n => (ends n).map (n :: ·), ?_, ?_⟩
  · rw [List.filterMap_flatMap, List.map_flatMap]
    apply List.flatMap_congr
    intro n _
    simp [same, Function.comp_def]
  · rw [List.pairwise_flatMap]
    constructor
    · intro n _
      rw [List.pairwise_map]
      apply (ordered n).imp
      intro a b earlier
      exact List.cons_lt_cons_iff.mpr (.inr ⟨rfl, earlier⟩)
    · apply (t.pairwise_children place).imp
      intro n m earlier a ofN b ofM
      obtain ⟨rest, -, rfl⟩ := List.mem_map.mp ofN
      obtain ⟨more, -, rfl⟩ := List.mem_map.mp ofM
      exact List.cons_lt_cons_iff.mpr (.inl earlier)

/-- A source has the path below the root of what was met. -/
theorem relativePath?_of_source {isDirectory : Bool} {visit : Visit} {file : Source}
    (source : (w.judge t isDirectory visit).source? = some file)
    : visit.relativePath? = some file.relativePath := by
  rw [Verdict.source?_eq_some_iff] at source
  cases visit with
  | directory | unreadable | loop => cases source
  | file path relativePath =>
    rw [judge] at source
    rw [(source_of_judgeFile source).2]
    rfl
  | link path relativePath =>
    rw [judge] at source
    split at source
    · rw [(source_of_judgeFile source).2]
      rfl
    · cases source

/-- Sources among visits that are in order are in order. -/
theorem InOrderBelow.sources {isDirectory : Bool} (inOrder : InOrderBelow [] visits)
    : (visits.filterMap fun visit => (w.judge t isDirectory visit).source?).Pairwise Earlier := by
  obtain ⟨ends, same, ordered⟩ := inOrder
  have paths
      : (visits.filterMap Visit.relativePath?).Pairwise fun a b =>
          Path.componentBytes a < Path.componentBytes b := by
    rw [same, List.pairwise_map]
    apply ordered.imp
    intro a b earlier
    simpa [Path.componentBytes_ofNames] using earlier
  rw [List.pairwise_filterMap] at paths ⊢
  apply paths.imp
  intro a b earlier file source file' source'
  exact earlier _ (relativePath?_of_source source) _ (relativePath?_of_source source')

end Walker

end Casebook
