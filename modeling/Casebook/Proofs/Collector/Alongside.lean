import Casebook.Proofs.Collector.Sources

/-! Collecting alongside. A collector that reads the same as another one finds the same literals in
other trees, so what becomes of its run is a matter of what it can write there.
-/

namespace Casebook

/-- A state of a run with another tree. -/
def Collecting.inTree (s : Collecting) (t : Tree) : Collecting :=
  { s with tree := t }

/-- A writer writes what has one of some numbers in all of some trees, and ends in one of them each
time.
-/
def CaseWriter.WritesAmong (w : CaseWriter) (trees : Tree → Prop) (numbers : Nat → Prop) : Prop :=
  ∀ t index content, trees t → numbers index →
    ∃ t', trees t' ∧ w.writeCase t index content = (.ok content.utf8ByteSize, t')

namespace Collector

/-- Two collectors find the same in what they read, and name their cases alike. -/
structure Resembles (k k' : Collector) : Prop where
  marker : k'.marker = k.marker
  strict : k'.strict = k.strict
  skipUnreadable : k'.skipUnreadable = k.skipUnreadable
  fileName : ∀ index, k'.writer.fileName index = k.writer.fileName index

theorem Resembles.refl (k : Collector)
    : k.Resembles k :=
  ⟨rfl, rfl, rfl, fun _ => rfl⟩

variable {k k' : Collector} {begun s : Collecting} {written : List (Source × Literal)}
  {file : Source} {files : List Source} {ls : List Literal} {counter next : Nat}
  {p : Progress} {t : Tree} {trees : Tree → Prop} {numbers : Nat → Prop}

/-- Where literals are written, a collector that can write them too records the same cases. By
induction on the literals.
-/
theorem writeAll_alongside (alike : k.Resembles k')
    (writes : k'.writer.WritesAmong trees numbers) (among : trees t)
    (numbered : ∀ n < ls.length, numbers (CaseNumber.after counter n))
    (ok : (k.writeAll file ls counter s).1 = .ok next)
    : ∃ t',
        trees t'
        ∧ k'.writeAll file ls counter (s.inTree t)
          = (.ok next, (k.writeAll file ls counter s).2.inTree t') := by
  induction ls generalizing counter s t with
  | nil => exact ⟨t, among, Prod.ext ok rfl⟩
  | cons l rest ih =>
    rw [writeAll] at ok ⊢
    rw [writeAll]
    cases wrote : k.writer.writeCase s.tree counter l.content with
    | mk outcome tree =>
    cases outcome with
    | error failure =>
      rw [wrote] at ok
      cases ok
    | ok bytes =>
      obtain ⟨rfl, -⟩ := CaseWriter.writeCase_eq_ok wrote
      obtain ⟨t', among', wrote'⟩ :=
        writes t counter l.content among (numbered 0 (Nat.zero_lt_succ _))
      rw [wrote] at ok
      have recorded : k'.recordOf file counter l l.content.utf8ByteSize
          = k.recordOf file counter l l.content.utf8ByteSize := by
        rw [recordOf, recordOf, alike.fileName]
      have same : (s.inTree t).tree = t := rfl
      rw [same, wrote']
      dsimp only
      rw [recorded]
      refine ih among' (fun n earlier => ?_) ok
      rw [CaseNumber.after_next]
      exact numbered (n + 1) (Nat.succ_lt_succ earlier)

/-- A source that is collected comes down to its literals, which are written once all is said of it.
A collector that reads the same from it comes down to the same.
-/
theorem collectFile_eq_writeAll (ok : (k.collectFile file counter s).1 = .ok next)
    : ∃ said : Progress,
        ∀ (k' : Collector) (t : Tree),
          k.Resembles k' →
          t.readText file.path = s.tree.readText file.path →
          k'.collectFile file counter (s.inTree t)
            = k'.writeAll file (s.tree.literalsOf k.marker file) counter
                { tree := t, progress := said } := by
  let entered := s.progress.enter file.relativePath
  unfold collectFile at ok
  cases read : s.tree.readText file.path with
  | error cause =>
    have none : s.tree.literalsOf k.marker file = [] := by
      rw [Tree.literalsOf, read]
    simp only [read] at ok
    split at ok
    next skips =>
      refine ⟨entered.warn (skipWarning file cause), fun k' t alike same => ?_⟩
      have here : (s.inTree t).tree.readText file.path = .error cause := same
      rw [collectFile, here, none]
      dsimp only
      rw [alike.skipUnreadable, if_pos skips]
      rfl
    next => cases ok
  | ok text =>
    have all : s.tree.literalsOf k.marker file = (k.marker.scan text).literals := by
      rw [Tree.literalsOf, read]
    simp only [read] at ok
    cases ends : (k.marker.scan text).unterminated with
    | none =>
      refine ⟨entered, fun k' t alike same => ?_⟩
      have here : (s.inTree t).tree.readText file.path = .ok text := same
      rw [collectFile, here, all]
      dsimp only
      rw [alike.marker, ends]
      rfl
    | some u =>
      simp only [ends] at ok
      split at ok
      next => cases ok
      next goesOn =>
        refine ⟨entered.warn (discardWarning file u), fun k' t alike same => ?_⟩
        have here : (s.inTree t).tree.readText file.path = .ok text := same
        rw [collectFile, here, all]
        dsimp only
        rw [alike.marker, ends, alike.strict]
        exact if_neg goesOn

/-- Where a run over sources succeeds, a collector that can write all its cases in other trees ends
with the same progress, if both always read the same from the sources. By induction on them.
-/
theorem collectRest_alongside (alike : k.Resembles k')
    (writes : k'.writer.WritesAmong trees numbers)
    (numbered
      : ∀ n, begun.progress.casesWritten + n < p.casesWritten →
          numbers (CaseNumber.after begun.progress.nextIndex n))
    (undisturbed
      : ∀ written s t,
          k.Reaches begun written s →
          s.progress.casesWritten ≤ p.casesWritten →
          trees t →
          ∀ file ∈ files, t.readText file.path = s.tree.readText file.path)
    (reached : k.Reaches begun written s) (next : s.progress.nextIndex = counter)
    (among : trees t) (ok : (k.collectRest files counter s).result = .ok p)
    : (k'.collectRest files counter (s.inTree t)).result = .ok p
      ∧ trees (k'.collectRest files counter (s.inTree t)).tree := by
  induction files generalizing written s counter t with
  | nil => exact ⟨ok, among⟩
  | cons file rest ih =>
    have le := casesWritten_le_of_collectRest next ok
    have same := undisturbed written s t reached le among file List.mem_cons_self
    rw [collectRest] at ok ⊢
    cases collected : k.collectFile file counter s with
    | mk outcome after =>
      rw [collected] at ok
      cases outcome with
      | error failure => cases ok
      | ok counter' =>
        obtain ⟨collects, counted, -⟩ := collectFile_ok next collected
        obtain ⟨said, wrote⟩ := collectFile_eq_writeAll (congrArg Prod.fst collected)
        have all := (wrote k s.tree (.refl k) rfl).symm.trans collected
        -- The literals of this source have places behind those that were written before.
        have placed (n : Nat) (earlier : n < (s.tree.literalsOf k.marker file).length)
            : numbers (CaseNumber.after counter n) := by
          have before := reached.casesWritten
          have behind := collects.casesWritten
          have upTo := casesWritten_le_of_collectRest counted.symm ok
          rw [List.length_map] at behind
          rw [← next, reached.nextIndex, ← CaseNumber.after_add]
          exact numbered _ (by omega)
        obtain ⟨t', among', wrote'⟩ :=
          writeAll_alongside (s := ⟨s.tree, said⟩) alike writes among placed (congrArg Prod.fst all)
        rw [(wrote k' t alike same).trans wrote', all]
        refine ih (fun written s t reached le among other member => ?_) (reached.trans collects)
          counted.symm among' ok
        exact undisturbed written s t reached le among other (List.mem_cons_of_mem file member)

end Collector

end Casebook
