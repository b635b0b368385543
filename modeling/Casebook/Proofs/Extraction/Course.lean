import Casebook.Proofs.Extraction.Parts

/-! The course of a run. It stops before it changes anything, stops while it makes the output
directory, or reads its sources until it gets to their end or stops among them. In each case it
ends in a state that is reached by writing cases, and leaves the tree of that state.
-/

namespace Casebook.Extraction

/-- The state in which a run ends, however it ends. A run that stops before it reads a source has
written no case.
-/
def ended (e : Extraction) (t : Tree) (root : String) : Collecting :=
  match (Walker.ofSettings e.config.scan).list t root with
  | .error _ => { tree := t, progress := Progress.begin 0 e.config.output.startIndex }
  | .ok listing =>
    match Collector.ofConfig e.config e.dryRun, e.writer.prepare t with
    | .error _, _ =>
      {
        tree := t
        progress := Progress.begin listing.files.length e.config.output.startIndex
      }
    | .ok _, (.error _, _) => e.begun t listing
    | .ok k, (.ok (), _) =>
      k.endOf listing.files e.config.output.startIndex (e.begun t listing)

/-- How far a run gets, with the state it ends in and what stops it on the way there. -/
inductive Course (e : Extraction) (t : Tree) (root : String) (clock : Clock) : Prop
  | unlisted {failure}
    (refused : (Walker.ofSettings e.config.scan).list t root = .error failure)
    (stopped : (e.run t root clock).result = .error failure)
    (same : e.ended t root = { tree := t, progress := .begin 0 e.config.output.startIndex })
  | unusable {listing failure}
    (listed : (Walker.ofSettings e.config.scan).list t root = .ok listing)
    (refused : Collector.ofConfig e.config e.dryRun = .error failure)
    (stopped : (e.run t root clock).result = .error failure)
    (same
      : e.ended t root
        = {
            tree := t
            progress := .begin listing.files.length e.config.output.startIndex
          })
  | unprepared {listing failure}
    (listed : (Walker.ofSettings e.config.scan).list t root = .ok listing)
    (usable : Collector.ofConfig e.config e.dryRun = .ok e.collector)
    (refused : (e.writer.prepare t).1 = .error failure)
    (stopped : (e.run t root clock).result = .error failure)
    (same : e.ended t root = e.begun t listing)
  | collected {listing}
    (listed : (Walker.ofSettings e.config.scan).list t root = .ok listing)
    (usable : Collector.ofConfig e.config e.dryRun = .ok e.collector)
    (prepared : (e.writer.prepare t).1 = .ok ())
    (collects
      : e.collect t listing
        = e.collector.collectRest listing.files e.config.output.startIndex (e.begun t listing))
    (same
      : e.ended t root
        = e.collector.endOf listing.files e.config.output.startIndex (e.begun t listing))

variable {e : Extraction} {t : Tree} {root : String} {clock : Clock} {listing : Listing}

/-- A run that has listed its sources fails as collecting from them does. -/
theorem run_result_eq_error_iff
    (listed : (Walker.ofSettings e.config.scan).list t root = .ok listing) {failure : Failure}
    : (e.run t root clock).result = .error failure
      ↔ (e.collect t listing).result = .error failure := by
  unfold run
  rw [listed]
  dsimp only
  cases (e.collect t listing).result with
  | error cause => simp only [Except.error.injEq]
  | ok p => exact ⟨nofun, nofun⟩

/-- A run that can read its sources ends where reading them ends. -/
theorem ended_of_prepared
    (listed : (Walker.ofSettings e.config.scan).list t root = .ok listing)
    (usable : e.config.scan.marker.checkSearch = .ok ())
    (prepared : (e.writer.prepare t).1 = .ok ())
    : e.ended t root
      = e.collector.endOf listing.files e.config.output.startIndex (e.begun t listing) := by
  have isUsable : Collector.ofConfig e.config e.dryRun = .ok e.collector := by
    rw [ofConfig_eq, usable]
    rfl
  have outcome : e.writer.prepare t = (.ok (), (e.writer.prepare t).2) := Prod.ext prepared rfl
  rw [ended, listed]
  simp only [isUsable]
  rw [outcome]

/-- Every run takes its course and leaves the tree of the state it ends in. -/
theorem course (e : Extraction) (t : Tree) (root : String) (clock : Clock)
    : e.Course t root clock ∧ (e.run t root clock).tree = (e.ended t root).tree := by
  cases listed : (Walker.ofSettings e.config.scan).list t root with
  | error failure =>
    have same : e.ended t root
        = { tree := t, progress := .begin 0 e.config.output.startIndex } := by
      rw [ended, listed]
    refine ⟨.unlisted listed ?_ same, ?_⟩
    · rw [run, listed]
    · rw [same, run, listed]
  | ok listing =>
  cases usable : e.config.scan.marker.checkSearch with
  | error failure =>
    have refused : Collector.ofConfig e.config e.dryRun = .error failure := by
      rw [ofConfig_eq, usable]
      rfl
    have collects : e.collect t listing = { result := .error failure, tree := t } := by
      rw [collect, refused]
    have same : e.ended t root
        = {
            tree := t
            progress := .begin listing.files.length e.config.output.startIndex
          } := by
      rw [ended, listed]
      simp only [refused]
    refine ⟨.unusable listed refused ((run_result_eq_error_iff listed).mpr ?_) same, ?_⟩
    · rw [collects]
    · rw [run_tree listed, collects, same]
  | ok =>
  have isUsable : Collector.ofConfig e.config e.dryRun = .ok e.collector := by
    rw [ofConfig_eq, usable]
    rfl
  have writer : e.collector.writer = e.writer := rfl
  cases prepared : e.writer.prepare t with
  | mk outcome tree =>
  have same' : e.prepared t = tree := congrArg Prod.snd prepared
  cases outcome with
  | error failure =>
    have collects : e.collect t listing = { result := .error failure, tree := tree } := by
      rw [collect_of_checkSearch usable, Collector.collectFiles, writer, prepared]
    have same : e.ended t root = e.begun t listing := by
      rw [ended, listed]
      simp only [isUsable, prepared]
    refine ⟨.unprepared listed isUsable (congrArg Prod.fst prepared)
      ((run_result_eq_error_iff listed).mpr ?_) same, ?_⟩
    · rw [collects]
    · rw [run_tree listed, collects, same, begun, same']
  | ok =>
    have collects : e.collect t listing
        = e.collector.collectRest listing.files e.config.output.startIndex
            (e.begun t listing) := by
      rw [collect_of_checkSearch usable, Collector.collectFiles, writer, prepared, begun, same']
    have same := ended_of_prepared listed usable (congrArg Prod.fst prepared)
    refine ⟨.collected listed isUsable (congrArg Prod.fst prepared) collects same, ?_⟩
    rw [run_tree listed, collects, same]
    exact (Collector.collectRest_eq_endOf _ _ _).1

-----------------------------------------------------------------------------------------
-- The cases that a run writes
-----------------------------------------------------------------------------------------

/-- No case is written yet, and nothing is changed in the tree but that the output directory may
have been made.
-/
structure Begins (e : Extraction) (t : Tree) (s : Collecting) : Prop where
  tree : s.tree = t ∨ s.tree = e.prepared t
  nextIndex : s.progress.nextIndex = e.config.output.startIndex
  casesWritten : s.progress.casesWritten = 0

/-- The run writes some literals as cases, in order, until it ends or one more is broken off. -/
def Writes (e : Extraction) (t : Tree) (root : String) (written : List (Source × Literal))
    : Prop :=
  ∃ s broken?, e.Begins t s ∧ e.collector.Leaves s written broken? (e.ended t root)

/-- Every run ends with some cases written, which may be none. -/
theorem exists_writes (e : Extraction) (t : Tree) (root : String)
    : ∃ written, e.Writes t root written := by
  -- A run that ends where it begins writes nothing.
  have atOnce {s : Collecting} (begins : e.Begins t s) (same : e.ended t root = s)
      : ∃ written, e.Writes t root written := by
    refine ⟨[], s, none, begins, ?_⟩
    rw [same]
    exact .whole .here
  obtain ⟨course, -⟩ := e.course t root default
  cases course with
  | unlisted _ _ same => exact atOnce ⟨.inl rfl, rfl, rfl⟩ same
  | unusable _ _ _ same => exact atOnce ⟨.inl rfl, rfl, rfl⟩ same
  | unprepared _ _ _ _ same => exact atOnce ⟨.inr rfl, rfl, rfl⟩ same
  | @collected listing _ _ _ _ same =>
    have next : (e.begun t listing).progress.nextIndex = e.config.output.startIndex := rfl
    obtain ⟨written, broken?, leaves, -⟩ :=
      Collector.endOf_leaves (k := e.collector) listing.files next
    refine ⟨written, e.begun t listing, broken?, ⟨.inr rfl, rfl, rfl⟩, ?_⟩
    rw [same]
    exact leaves

theorem Begins.madeAlong {s : Collecting} (begins : e.Begins t s)
    : t.MadeAlong (e.config.output.directory :: Path.ancestors e.config.output.directory)
        s.tree := by
  rcases begins.tree with same | same
  · rw [same]
    exact .refl t _
  · rw [same]
    exact e.writer.prepare_madeAlong t

end Casebook.Extraction
