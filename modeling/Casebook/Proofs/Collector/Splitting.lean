import Casebook.Proofs.Collector.Numbering
import Casebook.Proofs.Collector.Written

/-! Runs cut in two. A run over sources followed by others is a run over the first ones and then,
from the tree and the number where that stopped, one over the others. No step of a run looks back
at its progress, so what was there before is carried along unchanged.
-/

namespace Casebook

namespace Progress

/-- The progress of two runs, the second of which went on where the first stopped. -/
def followedBy (p q : Progress) : Progress where
  filesScanned := p.filesScanned + q.filesScanned
  totalFiles := p.totalFiles + q.totalFiles
  casesWritten := p.casesWritten + q.casesWritten
  bytesWritten := p.bytesWritten + q.bytesWritten
  currentFile := q.currentFile.or p.currentFile
  firstIndex := p.firstIndex
  nextIndex := q.nextIndex
  cases := p.cases ++ q.cases
  warnings := p.warnings ++ q.warnings

variable (p q : Progress)

theorem followedBy_enter (file : String)
    : (p.followedBy q).enter file = p.followedBy (q.enter file) :=
  rfl

theorem followedBy_record (c : CaseRecord)
    : (p.followedBy q).record c = p.followedBy (q.record c) := by
  simp [followedBy, record, Nat.add_assoc]

theorem followedBy_warn (warning : String)
    : (p.followedBy q).warn warning = p.followedBy (q.warn warning) := by
  simp [followedBy, warn]

/-- Before its first file a run has nothing behind it. -/
theorem begin_followedBy (more : Nat) {start : Nat} (first : p.firstIndex = start)
    : (begin more start).followedBy p = p.followedBy (begin more p.nextIndex) := by
  simp [followedBy, begin, first, Nat.add_comm more]

theorem begin_followedBy_begin (more files start : Nat)
    : (begin more start).followedBy (begin files start) = begin (files + more) start := by
  simp [followedBy, begin, Nat.add_comm more]

end Progress

/-- The state of a run with the progress of an earlier one before its own. -/
def Collecting.behind (s : Collecting) (p : Progress) : Collecting :=
  { s with progress := p.followedBy s.progress }

namespace Collector

variable {k : Collector} {s : Collecting} {p : Progress}

/-- Literals are written as they are without an earlier run, by induction on them. -/
theorem writeAll_behind (p : Progress) (file : Source) (ls : List Literal) (counter : Nat)
    (s : Collecting)
    : k.writeAll file ls counter (s.behind p)
      = ((k.writeAll file ls counter s).1, (k.writeAll file ls counter s).2.behind p) := by
  induction ls generalizing counter s with
  | nil => rfl
  | cons l rest ih =>
    rw [writeAll, writeAll]
    have same : (s.behind p).tree = s.tree := rfl
    rw [same]
    cases k.writer.writeCase s.tree counter l.content with
    | mk outcome tree =>
      cases outcome with
      | error failure => rfl
      | ok bytes =>
        dsimp only
        rw [← ih]
        simp only [Collecting.behind, Progress.followedBy_record]

/-- A source is collected as it is without an earlier run. -/
theorem collectFile_behind (p : Progress) (file : Source) (counter : Nat) (s : Collecting)
    : k.collectFile file counter (s.behind p)
      = ((k.collectFile file counter s).1, (k.collectFile file counter s).2.behind p) := by
  have same : (s.behind p).tree = s.tree := rfl
  have entered
      : (s.behind p).progress.enter file.relativePath
        = p.followedBy (s.progress.enter file.relativePath) :=
    Progress.followedBy_enter p s.progress file.relativePath
  unfold collectFile
  rw [same, entered]
  cases s.tree.readText file.path with
  | error cause =>
    dsimp only
    split
    · rw [Progress.followedBy_warn]
      rfl
    · rfl
  | ok text =>
    dsimp only
    cases (k.marker.scan text).unterminated with
    | none =>
      dsimp only
      rw [← writeAll_behind]
      rfl
    | some u =>
      dsimp only
      split
      · rfl
      · rw [← writeAll_behind, Progress.followedBy_warn]
        rfl

/-- A run over sources goes as it does without an earlier one, and adds to its progress. By
induction on the sources.
-/
theorem collectRest_behind (p : Progress) (files : List Source) (counter : Nat) (s : Collecting)
    : (k.collectRest files counter (s.behind p)).tree = (k.collectRest files counter s).tree
      ∧ (k.collectRest files counter (s.behind p)).result
        = (k.collectRest files counter s).result.map p.followedBy := by
  induction files generalizing counter s with
  | nil => exact ⟨rfl, rfl⟩
  | cons file rest ih =>
    rw [collectRest, collectRest, collectFile_behind]
    cases k.collectFile file counter s with
    | mk outcome after =>
      cases outcome with
      | error failure => exact ⟨rfl, rfl⟩
      | ok next => exact ih next after

/-- A run over sources followed by others stops with the first ones or goes on from where it got to
with them. By induction on the first ones.
-/
theorem collectRest_append (front back : List Source) {counter : Nat}
    (next : s.progress.nextIndex = counter)
    : (∀ failure,
          (k.collectRest front counter s).result = .error failure →
          (k.collectRest (front ++ back) counter s).result = .error failure)
      ∧ ∀ p,
          (k.collectRest front counter s).result = .ok p →
          (k.collectRest (front ++ back) counter s).result
            = (k.collectRest back p.nextIndex
                { tree := (k.collectRest front counter s).tree, progress := p }).result
          ∧ (k.collectRest (front ++ back) counter s).tree
            = (k.collectRest back p.nextIndex
                { tree := (k.collectRest front counter s).tree, progress := p }).tree := by
  induction front generalizing counter s with
  | nil =>
    constructor
    · intro failure failed
      cases failed
    · intro p ok
      cases ok
      subst next
      exact ⟨rfl, rfl⟩
  | cons file rest ih =>
    rw [List.cons_append, collectRest, collectRest]
    cases collected : k.collectFile file counter s with
    | mk outcome after =>
      cases outcome with
      | error failure =>
        constructor
        · intro failure' failed
          exact failed
        · intro p ok
          cases ok
      | ok counter' => exact ih (collectFile_ok next collected).2.1.symm

/-- What goes on from a progress adds to it what it would count by itself from the next number. -/
theorem collectRest_resumed {start : Nat} (counts : p.firstIndex = start) (t : Tree)
    (files : List Source)
    : (k.collectRest files p.nextIndex { tree := t, progress := p }).tree
        = (k.collectRest files p.nextIndex
            { tree := t, progress := Progress.begin files.length p.nextIndex }).tree
      ∧ (k.collectRest files p.nextIndex { tree := t, progress := p }).result.map
          (Progress.begin files.length start).followedBy
        = (k.collectRest files p.nextIndex
            { tree := t, progress := Progress.begin files.length p.nextIndex }).result.map
          p.followedBy := by
  let reached : Collecting := { tree := t, progress := p }
  let resumed : Collecting := {
    tree := t
    progress := Progress.begin files.length p.nextIndex
  }
  have same : reached.behind (Progress.begin files.length start) = resumed.behind p := by
    rw [Collecting.behind, Progress.begin_followedBy p files.length counts]
    rfl
  obtain ⟨tree, result⟩ :=
    collectRest_behind (k := k) (Progress.begin files.length start) files p.nextIndex reached
  obtain ⟨tree', result'⟩ := collectRest_behind (k := k) p files p.nextIndex resumed
  constructor
  · rw [← tree, same, tree']
  · rw [← result, same, result']

/-- A run over sources that the output directory has been made for makes nothing more of it. -/
theorem prepare_after_collectRest {t : Tree} (ok : (k.writer.prepare t).1 = .ok ())
    (files : List Source) {counter : Nat} (prepared : s.tree = (k.writer.prepare t).2)
    (next : s.progress.nextIndex = counter)
    : k.writer.prepare (k.collectRest files counter s).tree
      = (.ok (), (k.collectRest files counter s).tree) := by
  obtain ⟨written, _, leaves, -⟩ := endOf_leaves (k := k) files next
  cases dry : k.writer.dryRun with
  | true => simp [CaseWriter.prepare, dry]
  | false =>
    rw [(collectRest_eq_endOf files counter s).1]
    apply CaseWriter.prepare_again dry ok
    rw [← prepared]
    exact leaves.filesWritten

variable {t : Tree} {front : List Source} {start : Nat}

/-- A run over sources that begins at all begins with the directory made and nothing counted. -/
theorem collectFiles_of_prepare (ok : (k.writer.prepare t).1 = .ok ()) (files : List Source)
    (start : Nat)
    : k.collectFiles t files start
      = k.collectRest files start
          { tree := (k.writer.prepare t).2, progress := Progress.begin files.length start } := by
  unfold collectFiles
  cases prepared : k.writer.prepare t with
  | mk outcome tree =>
    rw [prepared] at ok
    cases ok
    rfl

theorem collectFiles_of_prepare_error {failure : Failure}
    (failed : (k.writer.prepare t).1 = .error failure) (files : List Source) (start : Nat)
    : (k.collectFiles t files start).result = .error failure := by
  unfold collectFiles
  cases prepared : k.writer.prepare t with
  | mk outcome tree =>
    rw [prepared] at failed
    cases failed
    rfl

/-- More sources behind those that a run begins with only add to the number of files. -/
theorem collectFiles_append_eq (ok : (k.writer.prepare t).1 = .ok ()) (front back : List Source)
    (start : Nat)
    : k.collectFiles t (front ++ back) start
      = k.collectRest (front ++ back) start
          (Collecting.behind
            { tree := (k.writer.prepare t).2, progress := Progress.begin front.length start }
            (Progress.begin back.length start)) := by
  rw [collectFiles_of_prepare ok, Collecting.behind, Progress.begin_followedBy_begin,
    List.length_append]

/-- Where a run stops, it stops with more sources behind those it was given. -/
theorem collectFiles_append_of_error {failure : Failure} (back : List Source)
    (failed : (k.collectFiles t front start).result = .error failure)
    : (k.collectFiles t (front ++ back) start).result = .error failure := by
  cases prepared : (k.writer.prepare t).1 with
  | error cause =>
    rw [collectFiles_of_prepare_error prepared] at failed ⊢
    exact failed
  | ok =>
    let begun : Collecting := {
      tree := (k.writer.prepare t).2
      progress := Progress.begin front.length start
    }
    have next : begun.progress.nextIndex = start := rfl
    rw [collectFiles_of_prepare prepared] at failed
    have stops := (collectRest_append front back next).1 failure failed
    rw [collectFiles_append_eq prepared, (collectRest_behind _ _ _ begun).2, stops]
    rfl

/-- Where a run succeeds, it goes on with more sources as a run over these from the tree and the
next number that it leaves.
-/
theorem collectFiles_append_of_ok (back : List Source)
    (ok : (k.collectFiles t front start).result = .ok p)
    : p.firstIndex = start
      ∧ (k.collectFiles t (front ++ back) start).result
        = (k.collectFiles (k.collectFiles t front start).tree back p.nextIndex).result.map
            p.followedBy
      ∧ (k.collectFiles t (front ++ back) start).tree
        = (k.collectFiles (k.collectFiles t front start).tree back p.nextIndex).tree := by
  cases prepared : (k.writer.prepare t).1 with
  | error cause =>
    rw [collectFiles_of_prepare_error prepared] at ok
    cases ok
  | ok =>
    let begun : Collecting := {
      tree := (k.writer.prepare t).2
      progress := Progress.begin front.length start
    }
    have next : begun.progress.nextIndex = start := rfl
    rw [collectFiles_of_prepare prepared] at ok
    have again := prepare_after_collectRest prepared front (s := begun) rfl next
    have counts : p.firstIndex = start := by
      obtain ⟨_, last, reached, -, rfl⟩ := collectRest_reaches (k := k) front next ok
      exact (reached.numbered (Progress.numbered_begin _ _ _)).firstIndex
    refine ⟨counts, ?_⟩
    have second
        : k.collectFiles (k.collectRest front start begun).tree back p.nextIndex
          = k.collectRest back p.nextIndex
              {
                tree := (k.collectRest front start begun).tree
                progress := Progress.begin back.length p.nextIndex
              } := by
      rw [collectFiles_of_prepare (congrArg Prod.fst again), again]
    obtain ⟨result, tree⟩ := (collectRest_append front back next).2 p ok
    obtain ⟨wholeTree, wholeResult⟩ :=
      collectRest_behind (k := k) (Progress.begin back.length start) (front ++ back) start begun
    obtain ⟨resumedTree, resumedResult⟩ :=
      collectRest_resumed (k := k) counts (k.collectRest front start begun).tree back
    rw [collectFiles_append_eq prepared, collectFiles_of_prepare prepared front, second]
    constructor
    · rw [wholeResult, result, resumedResult]
    · rw [wholeTree, tree, resumedTree]

/-- Splitting a run. A run over sources followed by others succeeds exactly if the run over the
first ones does and then, from the tree and the next number that it leaves, the run over the others
does. Its progress is that of the two, counted from the number it starts with, and it leaves the
tree that the second leaves.
-/
theorem collectFiles_append (k : Collector) (t : Tree) (front back : List Source) (start : Nat)
    : (∀ p,
          (k.collectFiles t (front ++ back) start).result = .ok p
          ↔ ∃ p₁ p₂,
              (k.collectFiles t front start).result = .ok p₁
              ∧ (k.collectFiles (k.collectFiles t front start).tree back p₁.nextIndex).result
                = .ok p₂
              ∧ p = p₁.followedBy p₂)
      ∧ ∀ p₁ p₂,
          (k.collectFiles t front start).result = .ok p₁ →
          (k.collectFiles (k.collectFiles t front start).tree back p₁.nextIndex).result = .ok p₂ →
          (p₁.followedBy p₂).firstIndex = start
          ∧ (k.collectFiles t (front ++ back) start).tree
            = (k.collectFiles (k.collectFiles t front start).tree back p₁.nextIndex).tree := by
  cases first : (k.collectFiles t front start).result with
  | error failure =>
    have whole := collectFiles_append_of_error back first
    refine ⟨?_, nofun⟩
    intro p
    constructor
    · intro ok
      exact nomatch whole.symm.trans ok
    · intro ⟨p₁, p₂, impossible, _⟩
      cases impossible
  | ok p₁ =>
    obtain ⟨counts, result, tree⟩ := collectFiles_append_of_ok back first
    refine ⟨?_, ?_⟩
    · intro p
      rw [result]
      cases second
          : (k.collectFiles (k.collectFiles t front start).tree back p₁.nextIndex).result with
      | error failure =>
        constructor
        · nofun
        · intro ⟨_, _, same, impossible, _⟩
          cases same
          cases second.symm.trans impossible
      | ok p₂ =>
        constructor
        · intro ok
          exact ⟨p₁, p₂, rfl, second, (Except.ok.inj ok).symm⟩
        · intro ⟨_, _, same, same', joined⟩
          cases same
          cases second.symm.trans same'
          exact congrArg Except.ok joined.symm
    · intro _ p₂ same _
      cases same
      exact ⟨counts, tree⟩

/-- The collector of the settings that a run starts from, with an output directory to be made. -/
def intoOut : Collector where
  marker := {}
  writer := CaseWriter.ofSettings { directory := "out" } false

/-- The first of two sources is collected and then the second, into a directory that is there by
then, and the three cases are those of the run over both.
-/
theorem collectFiles_append_two_sources
    : ∃ p₁ p₂,
        (intoOut.collectFiles twoSources (twoListed.take 1) 5).result = .ok p₁
        ∧ (p₁.nextIndex, p₁.casesWritten) = (7, 2)
        ∧ (intoOut.collectFiles (intoOut.collectFiles twoSources (twoListed.take 1) 5).tree
            (twoListed.drop 1) p₁.nextIndex).result
          = .ok p₂
        ∧ (p₂.nextIndex, p₂.casesWritten) = (8, 1)
        ∧ (intoOut.collectFiles twoSources (twoListed.take 1 ++ twoListed.drop 1) 5).result
          = .ok (p₁.followedBy p₂)
        ∧ (p₁.followedBy p₂).firstIndex = 5
        ∧ (intoOut.collectFiles twoSources (twoListed.take 1 ++ twoListed.drop 1) 5).tree
          = (intoOut.collectFiles (intoOut.collectFiles twoSources (twoListed.take 1) 5).tree
              (twoListed.drop 1) p₁.nextIndex).tree := by
  obtain ⟨p₁, ok₁, counts₁⟩
      : ∃ p, (intoOut.collectFiles twoSources (twoListed.take 1) 5).result = .ok p
          ∧ (p.nextIndex, p.casesWritten) = (7, 2) :=
    exists_ok_of_toOption (by decide +kernel)
  obtain ⟨p₂, ok₂, counts₂⟩
      : ∃ p,
          (intoOut.collectFiles (intoOut.collectFiles twoSources (twoListed.take 1) 5).tree
            (twoListed.drop 1) 7).result = .ok p
          ∧ (p.nextIndex, p.casesWritten) = (8, 1) :=
    exists_ok_of_toOption (by decide +kernel)
  rw [← (Prod.mk.inj counts₁).1] at ok₂
  obtain ⟨whole, ends⟩ :=
    collectFiles_append intoOut twoSources (twoListed.take 1) (twoListed.drop 1) 5
  obtain ⟨counts, tree⟩ := ends p₁ p₂ ok₁ ok₂
  exact ⟨p₁, p₂, ok₁, counts₁, ok₂, counts₂, (whole _).mpr ⟨p₁, p₂, ok₁, ok₂, rfl⟩, counts, tree⟩

end Collector

end Casebook
