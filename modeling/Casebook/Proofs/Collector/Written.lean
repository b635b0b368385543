import Casebook.Proofs.CaseWriter.FileName
import Casebook.Proofs.Collector.Collected

/-! What a run leaves in the tree. Every location holds the content of the last case that was
written there, or what it held before the run. No path leads elsewhere after a write, so a source
that no case is written over is read as it stood.
-/

namespace Casebook.Collector

variable {k : Collector} {start s : Collecting} {written : List (Source × Literal)}
  {broken? : Option (Source × Literal)}

/-- The location that the path of the `n`th case of a run leads to, counted from none. -/
def target? (k : Collector) (start : Collecting) (n : Nat) : Option Tree.Location :=
  start.tree.destination? (k.writer.casePath (CaseNumber.after start.progress.nextIndex n))

/-- Each literal that a run writes is recorded under the number it takes. -/
theorem Reaches.cases (reached : k.Reaches start written s)
    : s.progress.cases
      = start.progress.cases
        ++ written.zipIdx.map fun placed =>
            k.recordOf placed.1.1 (CaseNumber.after start.progress.nextIndex placed.2) placed.1.2
              placed.1.2.content.utf8ByteSize := by
  induction reached with
  | here => rw [List.zipIdx_nil, List.map_nil, List.append_nil]
  | enter _ _ ih => exact ih
  | warn _ _ ih => exact ih
  | write before ok ih =>
    rw [(CaseWriter.writeCase_eq_ok ok).1, List.zipIdx_append, List.map_append,
      ← List.append_assoc, ← ih, Progress.record, before.nextIndex, Nat.zero_add]
    rfl

/-- A literal that a run writes is in the records with its number. -/
theorem Reaches.recordOf_mem_cases (reached : k.Reaches start written s) {n : Nat} {file : Source}
    {l : Literal} (listed : written[n]? = some (file, l))
    : k.recordOf file (CaseNumber.after start.progress.nextIndex n) l l.content.utf8ByteSize
      ∈ s.progress.cases := by
  rw [reached.cases]
  refine List.mem_append_right _ (List.mem_map.mpr ⟨((file, l), n), ?_, rfl⟩)
  exact List.mem_zipIdx_iff_getElem?.mpr listed

/-- Of the cases that a run wrote at a location, the `n`th is the last one. It was free to be
written there, and its content is what the run leaves there.
-/
structure LastAt (k : Collector) (start : Collecting) (after : Tree)
    (written : List (Source × Literal)) (q : Tree.Location) (n : Nat) (file : Source)
    (l : Literal)
    : Prop where
  listed : written[n]? = some (file, l)
  target : k.target? start n = some q
  last : ∀ m, n < m → m < written.length → k.target? start m ≠ some q
  allowed : k.writer.overwrite = true ∨ start.tree.get? q = none
  stands : after.get? q = some (.file l.content.toUTF8)

/-- What is put has a target, the location that its path led to from the start. -/
theorem Reaches.target?_eq (reached : k.Reaches start written s) {bytes : ByteArray}
    {q : Tree.Location} {tree : Tree}
    (puts : k.writer.Puts s.tree s.progress.nextIndex bytes q tree)
    : k.target? start written.length = some q := by
  rw [target?, ← reached.nextIndex, ← reached.filesWritten.destination?_eq]
  exact puts.leads

/-- Every case that a real run writes is written where its path led for that from the start. -/
theorem Reaches.exists_writeFile (reached : k.Reaches start written s)
    (real : k.writer.dryRun = false) {n : Nat} (listed : n < written.length)
    : ∃ q,
        start.tree.destination?
            (k.writer.casePath (CaseNumber.after start.progress.nextIndex n)) .writeFile
        = some q := by
  induction reached with
  | here => exact absurd listed (Nat.not_lt_zero n)
  | enter _ _ ih => exact ih listed
  | warn _ _ ih => exact ih listed
  | @write written s file l bytes tree before ok ih =>
    rw [List.length_append, List.length_singleton, Nat.lt_succ_iff_lt_or_eq] at listed
    rcases listed with earlier | rfl
    · exact ih earlier
    · obtain ⟨q, puts⟩ := (CaseWriter.writeCase_eq_ok ok).2.2 real
      have target := puts.target
      rw [before.nextIndex, before.filesWritten.destination?_eq] at target
      exact ⟨q, target⟩

/-- Every case that a real run writes has a target. -/
theorem Reaches.exists_target (reached : k.Reaches start written s)
    (real : k.writer.dryRun = false) {n : Nat} (listed : n < written.length)
    : ∃ q, k.target? start n = some q := by
  obtain ⟨q, leads⟩ := reached.exists_writeFile real listed
  exact ⟨q, Tree.destination?_of_writeFile leads⟩

/-- A real run leaves at every location the last case that it wrote there, or what stood there
before. By induction on the run: a write makes its case the last one at its target, and moves
nothing that stands elsewhere.
-/
theorem Reaches.lastAt_or_kept (reached : k.Reaches start written s)
    (real : k.writer.dryRun = false) (q : Tree.Location)
    : (∃ n file l, k.LastAt start s.tree written q n file l)
      ∨ (∀ n, n < written.length → k.target? start n ≠ some q)
        ∧ s.tree.get? q = start.tree.get? q := by
  induction reached with
  | here => exact .inr ⟨fun n listed => absurd listed (Nat.not_lt_zero n), rfl⟩
  | enter _ _ ih => exact ih
  | warn _ _ ih => exact ih
  | @write written s file l bytes tree before ok ih =>
    obtain ⟨place, puts⟩ := (CaseWriter.writeCase_eq_ok ok).2.2 real
    have target := before.target?_eq puts
    have upTo {m : Nat} (listed : m < (written ++ [(file, l)]).length)
        : m < written.length ∨ m = written.length := by
      rwa [List.length_append, List.length_singleton, Nat.lt_succ_iff_lt_or_eq] at listed
    -- The new case is the last one at its own target and leaves all other locations alone.
    by_cases here : q = place
    · subst here
      refine .inl ⟨written.length, file, l, List.getElem?_concat_length, target, ?_, ?_, ?_⟩
      · intro m later listed
        rcases upTo listed with earlier | same <;> omega
      · rcases puts.allowed with overwrites | absent
        · exact .inl overwrites
        · rcases before.filesWritten.places q with same | ⟨_, bytes, stands⟩
          · exact .inr (same ▸ absent)
          · exact absurd (absent.symm.trans stands) nofun
      · exact (puts.get? q).trans (if_pos rfl)
    · have elsewhere : tree.get? q = s.tree.get? q := (puts.get? q).trans (if_neg here)
      have notLast {m : Nat} (same : m = written.length) : k.target? start m ≠ some q := by
        intro leads
        rw [same, target] at leads
        exact here (Option.some.inj leads).symm
      rcases ih with ⟨n, other, literal, last⟩ | ⟨none, kept⟩
      · refine .inl ⟨n, other, literal, ?_, last.target, ?_, last.allowed,
          elsewhere.trans last.stands⟩
        · obtain ⟨listed, _⟩ := List.getElem?_eq_some_iff.mp last.listed
          rw [List.getElem?_append_left listed, last.listed]
        · intro m later listed
          rcases upTo listed with earlier | same
          · exact last.last m later earlier
          · exact notLast same
      · refine .inr ⟨fun n listed => ?_, elsewhere.trans kept⟩
        rcases upTo listed with earlier | same
        · exact none n earlier
        · exact notLast same

/-- What a path leads to is found there as long as no case is written over it. -/
theorem Reaches.stat_eq_ok (reached : k.Reaches start written s) {path : String}
    {q : Tree.Location} {entry : Tree.Entry}
    (apart : ∀ n, n < written.length → k.target? start n ≠ some q)
    (found : start.tree.stat path = .ok (q, entry))
    : s.tree.stat path = .ok (q, entry) := by
  cases dryRun : k.writer.dryRun with
  | true => rwa [reached.tree_eq dryRun]
  | false =>
    obtain ⟨leads, stands⟩ := Tree.stat_eq_ok_iff.mp found
    rcases reached.lastAt_or_kept dryRun q with ⟨n, _, _, last⟩ | ⟨_, kept⟩
    · obtain ⟨listed, _⟩ := List.getElem?_eq_some_iff.mp last.listed
      exact absurd last.target (apart n listed)
    · exact reached.filesWritten.stat_eq_ok leads (kept.trans stands)

/-- Where cases have targets of their own, the path of each case that a real run wrote leads to
its content.
-/
theorem Reaches.stat_casePath (reached : k.Reaches start written s)
    (real : k.writer.dryRun = false)
    (apart
      : ∀ i j, i < j → j < written.length →
          ∀ q, k.target? start i = some q → k.target? start j ≠ some q)
    {n : Nat} {file : Source} {l : Literal} (listed : written[n]? = some (file, l))
    : ∃ q,
        k.target? start n = some q
        ∧ s.tree.stat (k.writer.casePath (CaseNumber.after start.progress.nextIndex n))
          = .ok (q, .file l.content.toUTF8) := by
  obtain ⟨inRange, _⟩ := List.getElem?_eq_some_iff.mp listed
  obtain ⟨q, target⟩ := reached.exists_target real inRange
  refine ⟨q, target, ?_⟩
  rcases reached.lastAt_or_kept real q with ⟨m, _, _, last⟩ | ⟨none, _⟩
  · obtain ⟨inRange', _⟩ := List.getElem?_eq_some_iff.mp last.listed
    -- The last case at the target is the only one there.
    obtain rfl : m = n := by
      rcases Nat.lt_trichotomy m n with before | same | behind
      · exact absurd target (apart m n before inRange q last.target)
      · exact same
      · exact absurd last.target (apart n m behind inRange' q target)
    obtain ⟨-, rfl⟩ := Prod.mk.inj (Option.some.inj (last.listed.symm.trans listed))
    exact reached.filesWritten.stat_eq_ok target last.stands
  · exact absurd target (none n inRange)

/-- After a real run the path of each case leads to its content, if none is written through a
link and numbers do not come round.
-/
theorem Reaches.readText_casePath (reached : k.Reaches start written s)
    (real : k.writer.dryRun = false) (names : k.writer.NamesFiles)
    (fits : start.progress.nextIndex + written.length < CaseNumber.bound)
    (noLink
      : ∀ i, i < written.length →
          start.tree.isLink (k.writer.casePath (CaseNumber.after start.progress.nextIndex i))
          = false)
    {n : Nat} {file : Source} {l : Literal} (listed : written[n]? = some (file, l))
    : s.tree.readText (k.writer.casePath (CaseNumber.after start.progress.nextIndex n))
      = .ok l.content := by
  have apart (i j : Nat) (before : i < j) (upTo : j < written.length) (q : Tree.Location)
      (first : k.target? start i = some q)
      : k.target? start j ≠ some q := by
    intro second
    have same :=
      names.destination?_injective (noLink i (Nat.lt_trans before upTo)) (noLink j upTo) first second
    exact CaseNumber.after_ne before (by omega) same
  obtain ⟨q, -, found⟩ := reached.stat_casePath real apart listed
  obtain ⟨leads, stands⟩ := Tree.stat_eq_ok_iff.mp found
  exact Tree.readText_eq_ok leads stands

-----------------------------------------------------------------------------------------
-- Runs that may overwrite nothing
-----------------------------------------------------------------------------------------

/-- A run that may overwrite nothing keeps all that stood in the tree. -/
theorem Reaches.get?_of_not_overwrite (reached : k.Reaches start written s)
    (keeps : k.writer.overwrite = false) {q : Tree.Location} {entry : Tree.Entry}
    (stands : start.tree.get? q = some entry)
    : s.tree.get? q = some entry := by
  cases dryRun : k.writer.dryRun with
  | true => rwa [reached.tree_eq dryRun]
  | false =>
    rcases reached.lastAt_or_kept dryRun q with ⟨_, _, _, last⟩ | ⟨_, kept⟩
    · rcases last.allowed with overwrites | absent
      · exact absurd (keeps.symm.trans overwrites) Bool.false_ne_true
      · rw [absent] at stands
        cases stands
    · exact kept.trans stands

/-- A run that may overwrite nothing writes its cases only where nothing stood when it began. -/
theorem Reaches.absent_of_not_overwrite (reached : k.Reaches start written s)
    (real : k.writer.dryRun = false) (keeps : k.writer.overwrite = false) {n : Nat}
    {q : Tree.Location} (inRange : n < written.length) (target : k.target? start n = some q)
    : start.tree.get? q = none := by
  rcases reached.lastAt_or_kept real q with ⟨_, _, _, last⟩ | ⟨none, _⟩
  · rcases last.allowed with overwrites | absent
    · exact absurd (keeps.symm.trans overwrites) Bool.false_ne_true
    · exact absent
  · exact absurd target (none n inRange)

/-- A run that may overwrite nothing writes no two cases at one location, by induction on it: the
earlier case stands in the way of the later one.
-/
theorem Reaches.target?_ne_of_not_overwrite (reached : k.Reaches start written s)
    (real : k.writer.dryRun = false) (keeps : k.writer.overwrite = false) {i j : Nat}
    {q : Tree.Location} (before : i < j) (upTo : j < written.length)
    (first : k.target? start i = some q)
    : k.target? start j ≠ some q := by
  induction reached with
  | here => exact absurd upTo (Nat.not_lt_zero j)
  | enter _ _ ih => exact ih upTo
  | warn _ _ ih => exact ih upTo
  | @write written s file l bytes tree reached ok ih =>
    rw [List.length_append, List.length_singleton, Nat.lt_succ_iff_lt_or_eq] at upTo
    rcases upTo with earlier | rfl
    · exact ih earlier
    · intro second
      obtain ⟨place, puts⟩ := (CaseWriter.writeCase_eq_ok ok).2.2 real
      obtain rfl : place = q :=
        Option.some.inj ((reached.target?_eq puts).symm.trans second)
      have free : s.tree.get? place = none := by
        rcases puts.allowed with overwrites | absent
        · exact absurd (keeps.symm.trans overwrites) Bool.false_ne_true
        · exact absent
      rcases reached.lastAt_or_kept real place with ⟨_, _, _, last⟩ | ⟨none, _⟩
      · exact absurd (free.symm.trans last.stands) nofun
      · exact none i before first

-----------------------------------------------------------------------------------------
-- Where runs end
-----------------------------------------------------------------------------------------

/-- A literal that was broken off behind so many others stands at a location as far as it was taken.
It was free to be written there.
-/
structure BrokenAt (k : Collector) (start : Collecting) (after : Tree) (count : Nat)
    (broken? : Option (Source × Literal)) (q : Tree.Location) (file : Source) (l : Literal)
    : Prop where
  isBroken : broken? = some (file, l)
  faulty : ¬ start.tree.TakesAll
  target : k.target? start count = some q
  allowed : k.writer.overwrite = true ∨ start.tree.get? q = none
  stands : ∃ taken, after.get? q = some (.file (l.content.toUTF8.extract 0 taken))

/-- Where a real run ends, each location holds what it would hold had the run got through, or the
literal that was broken off there.
-/
theorem Leaves.lastAt_or_kept (leaves : k.Leaves start written broken? s)
    (real : k.writer.dryRun = false) (q : Tree.Location)
    : (∃ n file l, k.LastAt start s.tree written q n file l)
      ∨ (∀ n, n < written.length → k.target? start n ≠ some q)
        ∧ s.tree.get? q = start.tree.get? q
      ∨ ∃ file l, k.BrokenAt start s.tree written.length broken? q file l := by
  cases leaves with
  | whole reached =>
    rcases reached.lastAt_or_kept real q with last | kept
    · exact .inl last
    · exact .inr (.inl kept)
  | @brokenOff file l last place left fault reached _ puts faulty =>
    by_cases here : q = place
    · subst here
      exact .inr (.inr ⟨file, l, rfl, fun takes => faulty (takes.congr reached.filesWritten.medium),
        reached.target?_eq puts, puts.allowed.imp_right reached.filesWritten.absent, fault.taken,
        (puts.get? q).trans (if_pos rfl)⟩)
    · have kept : left.get? q = last.tree.get? q := (puts.get? q).trans (if_neg here)
      rcases reached.lastAt_or_kept real q with ⟨n, file, l, lastAt⟩ | ⟨none, same⟩
      · exact .inl ⟨n, file, l, lastAt.listed, lastAt.target, lastAt.last, lastAt.allowed,
          kept.trans lastAt.stands⟩
      · exact .inr (.inl ⟨none, kept.trans same⟩)

/-- A run that may overwrite nothing keeps all that stood in the tree, wherever it ends. -/
theorem Leaves.get?_of_not_overwrite (leaves : k.Leaves start written broken? s)
    (keeps : k.writer.overwrite = false) {q : Tree.Location} {entry : Tree.Entry}
    (stands : start.tree.get? q = some entry)
    : s.tree.get? q = some entry := by
  cases leaves with
  | whole reached => exact reached.get?_of_not_overwrite keeps stands
  | brokenOff reached _ puts =>
    exact puts.keeps keeps (reached.get?_of_not_overwrite keeps stands)

/-- Wherever a real run ends that may overwrite nothing, the path of each of its cases leads to its
content, where nothing stood when the run began.
-/
theorem Leaves.stat_casePath_of_not_overwrite (leaves : k.Leaves start written broken? s)
    (real : k.writer.dryRun = false) (keeps : k.writer.overwrite = false) {n : Nat} {file : Source}
    {l : Literal} (listed : written[n]? = some (file, l))
    : ∃ q,
        start.tree.get? q = none
        ∧ s.tree.stat (k.writer.casePath (CaseNumber.after start.progress.nextIndex n))
          = .ok (q, .file l.content.toUTF8) := by
  have whole {last : Collecting} (reached : k.Reaches start written last)
      : ∃ q,
          start.tree.get? q = none
          ∧ last.tree.stat (k.writer.casePath (CaseNumber.after start.progress.nextIndex n))
            = .ok (q, .file l.content.toUTF8) := by
    obtain ⟨inRange, -⟩ := List.getElem?_eq_some_iff.mp listed
    obtain ⟨q, target, found⟩ :=
      reached.stat_casePath real
        (fun i j before upTo q first =>
          reached.target?_ne_of_not_overwrite real keeps before upTo first)
        listed
    exact ⟨q, reached.absent_of_not_overwrite real keeps inRange target, found⟩
  cases leaves with
  | whole reached => exact whole reached
  | brokenOff reached _ puts =>
    obtain ⟨q, absent, found⟩ := whole reached
    obtain ⟨leads, stands⟩ := Tree.stat_eq_ok_iff.mp found
    exact ⟨q, absent, puts.filesWritten.stat_eq_ok leads (puts.keeps keeps stands)⟩

end Casebook.Collector
