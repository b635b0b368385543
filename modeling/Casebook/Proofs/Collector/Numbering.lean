import Casebook.Proofs.Collector.Collected
import Casebook.Proofs.Evaluation

/-! The numbers of cases. Whatever sources hold and wherever a run over them stops, its cases are
numbered without a gap, its counts are those of its cases, and the number that goes from source
to source is the one that its progress gives.
-/

namespace Casebook

/-- The cases have the numbers from `first` on, one after the other, which come round behind the
greatest of them, and carry the file names of their numbers; all counts are those of the cases.
Where no number comes round the cases are numbered without a gap up to the next number.
-/
structure Progress.Numbered (p : Progress) (w : CaseWriter) (first : Nat) : Prop where
  indexes
    : p.cases.map CaseRecord.index = (List.range p.cases.length).map (CaseNumber.after first)
  nextIndex : p.nextIndex = CaseNumber.after first p.cases.length
  contiguous
    : first + p.cases.length < CaseNumber.bound →
        p.cases.map CaseRecord.index = List.range' first p.cases.length
        ∧ p.nextIndex = first + p.cases.length
  casesWritten : p.casesWritten = p.cases.length
  firstIndex : p.firstIndex = first
  bytesWritten : p.bytesWritten = (p.cases.map CaseRecord.bytes).sum
  fileNames : ∀ c ∈ p.cases, c.fileName = w.fileName c.index

/-- There are no cases to number before the first source. -/
theorem Progress.numbered_begin (w : CaseWriter) (totalFiles first : Nat)
    : (Progress.begin totalFiles first).Numbered w first :=
  ⟨rfl, rfl, fun _ => ⟨rfl, rfl⟩, rfl, rfl, rfl, nofun⟩

/-- Numbers that do not come round are a range. -/
theorem CaseNumber.map_after_range {first n : Nat} (fits : first + n < CaseNumber.bound)
    : (List.range n).map (CaseNumber.after first) = List.range' first n := by
  rw [List.range'_eq_map_range]
  refine List.map_congr_left fun i member => CaseNumber.after_eq ?_
  have inRange := List.mem_range.mp member
  omega

/-- Every place up to the last case has a case with its number. -/
theorem Progress.Numbered.exists_case {p : Progress} {w : CaseWriter} {first n : Nat}
    (numbered : p.Numbered w first) (inRange : n < p.cases.length)
    : ∃ c ∈ p.cases, c.index = CaseNumber.after first n := by
  have isIndex : CaseNumber.after first n ∈ p.cases.map CaseRecord.index := by
    rw [numbered.indexes]
    exact List.mem_map_of_mem (List.mem_range.mpr inRange)
  exact List.mem_map.mp isIndex

/-- A case with the next number and its file name is numbered with those before it. -/
theorem Progress.Numbered.record {p : Progress} {w : CaseWriter} {first : Nat} {c : CaseRecord}
    (numbered : p.Numbered w first) (index : c.index = p.nextIndex)
    (fileName : c.fileName = w.fileName c.index)
    : (p.record c).Numbered w first := by
  have last : c.index = CaseNumber.after first p.cases.length := index.trans numbered.nextIndex
  have length : (p.record c).cases.length = p.cases.length + 1 := List.length_append
  have indexes
      : (p.record c).cases.map CaseRecord.index
        = (List.range (p.record c).cases.length).map (CaseNumber.after first) := by
    rw [length, List.range_succ, List.map_append, ← numbered.indexes, List.map_singleton, ← last]
    exact List.map_append
  have next : (p.record c).nextIndex = CaseNumber.after first (p.record c).cases.length := by
    rw [length]
    exact congrArg CaseNumber.next last
  refine ⟨indexes, next, fun fits => ⟨?_, ?_⟩, ?_, numbered.firstIndex, ?_, ?_⟩
  · rw [indexes, CaseNumber.map_after_range fits]
  · rw [next, CaseNumber.after_eq fits]
  · simp [Progress.record, numbered.casesWritten]
  · simp [Progress.record, numbered.bytesWritten]
  · intro other member
    rcases List.mem_append.mp member with before | same
    · exact numbered.fileNames other before
    · rw [List.mem_singleton.mp same]
      exact fileName

namespace Collector

variable {k : Collector} {start s : Collecting} {written : List (Source × Literal)} {first : Nat}

/-- A run keeps its cases numbered, since each takes the next number. -/
theorem Reaches.numbered (reached : k.Reaches start written s)
    (begun : start.progress.Numbered k.writer first)
    : s.progress.Numbered k.writer first := by
  induction reached with
  | here => exact begun
  | enter _ _ ih => exact ⟨ih.1, ih.2, ih.3, ih.4, ih.5, ih.6, ih.7⟩
  | warn _ _ ih => exact ⟨ih.1, ih.2, ih.3, ih.4, ih.5, ih.6, ih.7⟩
  | write _ _ ih => exact ih.record rfl rfl

/-- A run over sources sees only states that it reached, by induction on the sources. -/
theorem collectRest_seen (files : List Source) {counter : Nat}
    (next : s.progress.nextIndex = counter)
    : ∀ p ∈ (k.collectRest files counter s).seen,
        ∃ written seen, k.Reaches s written seen ∧ p = seen.progress := by
  induction files generalizing counter s with
  | nil =>
    intro p member
    exact ⟨[], s, .here, List.mem_singleton.mp member⟩
  | cons file rest ih =>
    rw [collectRest]
    cases collected : k.collectFile file counter s with
    | mk outcome after =>
      intro p member
      cases outcome with
      | error failure => exact ⟨[], s, .here, List.mem_singleton.mp member⟩
      | ok counter =>
        obtain ⟨reached, counted, -⟩ := collectFile_ok next collected
        rcases List.mem_cons.mp member with same | later
        · exact ⟨[], s, .here, same⟩
        · obtain ⟨written, seen, onward, same⟩ := ih counted.symm p later
          exact ⟨_, seen, reached.trans onward, same⟩

/-- A run is seen before each source that it takes up and once more if it gets to the end, and
each time one more source was taken up. By induction on the sources.
-/
theorem collectRest_seen_filesScanned (files : List Source) {counter : Nat} {s : Collecting}
    (next : s.progress.nextIndex = counter)
    : (∀ (n : Nat) (p : Progress), (k.collectRest files counter s).seen[n]? = some p →
          p.filesScanned = s.progress.filesScanned + n)
      ∧ ∀ p, (k.collectRest files counter s).result = .ok p →
          (k.collectRest files counter s).seen.length = files.length + 1 := by
  induction files generalizing counter s with
  | nil =>
    refine ⟨fun n p seen => ?_, fun _ _ => rfl⟩
    cases n with
    | zero => exact congrArg Progress.filesScanned (Option.some.inj seen).symm
    | succ n => cases seen
  | cons file rest ih =>
    have scanned := collectFile_filesScanned (k := k) file next
    rw [collectRest]
    cases collected : k.collectFile file counter s with
    | mk outcome after =>
      simp only [collected] at scanned
      cases outcome with
      | error failure =>
        refine ⟨fun n p seen => ?_, fun p impossible => ?_⟩
        · cases n with
          | zero => exact congrArg Progress.filesScanned (Option.some.inj seen).symm
          | succ n => cases seen
        · cases impossible
      | ok counter =>
        obtain ⟨later, length⟩ := ih (collectFile_ok next collected).2.1.symm
        refine ⟨fun n p seen => ?_, fun p ok => congrArg (· + 1) (length p ok)⟩
        cases n with
        | zero => exact congrArg Progress.filesScanned (Option.some.inj seen).symm
        | succ n => rw [later n p seen, scanned, Nat.add_assoc, Nat.add_comm 1]

/-- The numbers of a run. Collecting a source keeps the cases numbered and gives the next number;
so the cases are numbered in all states that a run over sources is seen in and in its result, and
it is seen once with every number of sources taken up, from none to all if it gets to the end.
-/
theorem collectFiles_numbered (k : Collector) (t : Tree) (files : List Source) (first : Nat)
    : (∀ file counter s,
          s.progress.Numbered k.writer first →
          s.progress.nextIndex = counter →
          (k.collectFile file counter s).2.progress.Numbered k.writer first
          ∧ ∀ next, (k.collectFile file counter s).1 = .ok next →
              next = (k.collectFile file counter s).2.progress.nextIndex)
      ∧ (∀ p ∈ (k.collectFiles t files first).seen, p.Numbered k.writer first)
      ∧ (∀ p, (k.collectFiles t files first).result = .ok p → p.Numbered k.writer first)
      ∧ (∀ (n : Nat) (p : Progress),
          (k.collectFiles t files first).seen[n]? = some p → p.filesScanned = n)
      ∧ ∀ p, (k.collectFiles t files first).result = .ok p →
          (k.collectFiles t files first).seen.length = files.length + 1 := by
  refine ⟨?_, ?_⟩
  · intro file counter s numbered next
    obtain ⟨done, _, -, leaves⟩ := collectFile_leaves (k := k) file next
    obtain ⟨last, reached, same⟩ := leaves.exists_reaches
    rw [same]
    refine ⟨reached.numbered numbered, fun after ok => ?_⟩
    exact (collectFile_ok next (Prod.ext ok rfl)).2.1.trans (congrArg Progress.nextIndex same)
  · have begun := Progress.numbered_begin k.writer files.length first
    unfold collectFiles
    cases k.writer.prepare t with
    | mk outcome tree =>
      cases outcome with
      | error failure => exact ⟨nofun, nofun, nofun, nofun⟩
      | ok =>
        obtain ⟨scanned, length⟩ := collectRest_seen_filesScanned (k := k) files
          (s := { tree := tree, progress := Progress.begin files.length first }) rfl
        refine ⟨?_, ?_, fun n p seen => (scanned n p seen).trans (Nat.zero_add n), length⟩
        · intro p member
          obtain ⟨_, _, reached, rfl⟩ := collectRest_seen (k := k) files
            (s := { tree := tree, progress := Progress.begin files.length first }) rfl p member
          exact reached.numbered begun
        · intro p ok
          obtain ⟨_, _, reached, -, same⟩ := collectRest_reaches (k := k) files
            (s := { tree := tree, progress := Progress.begin files.length first }) rfl ok
          exact same ▸ reached.numbered begun

/-- The collector of the settings that a run starts from. -/
def byDefault : Collector where
  marker := {}
  writer := CaseWriter.ofSettings {} false

/-- Two sources, the first with two literals and the second with one. -/
def twoSources : Tree :=
  .ofTop [
    ("a.cpp", .file "R\"(\nx\n)\";\nR\"(\ny\n)\";\n".toUTF8),
    ("b.cpp", .file "R\"(\nz\n)\";\n".toUTF8)]

/-- The listing of the two sources. -/
def twoListed : List Source :=
  [
    { path := "a.cpp", relativePath := "a.cpp", size := 20 },
    { path := "b.cpp", relativePath := "b.cpp", size := 10 }
  ]

/-- The cases of two sources are numbered from five on, those of the second behind those of the
first.
-/
theorem collectFiles_numbered_from_five
    : (∃ file begun,
          begun.progress.Numbered byDefault.writer 5
          ∧ begun.progress.nextIndex = 5
          ∧ (byDefault.collectFile file 5 begun).1 = .ok 7
          ∧ (byDefault.collectFile file 5 begun).2.progress.Numbered byDefault.writer 5)
      ∧ ∃ p, (byDefault.collectFiles twoSources twoListed 5).result = .ok p
          ∧ p.nextIndex = 8
          ∧ p.Numbered byDefault.writer 5
          ∧ (byDefault.collectFiles twoSources twoListed 5).seen.length = 3 := by
  obtain ⟨single, -, result, -, length⟩ := collectFiles_numbered byDefault twoSources twoListed 5
  refine ⟨?_, ?_⟩
  · let begun : Collecting := { tree := twoSources, progress := Progress.begin 2 5 }
    let file : Source := { path := "a.cpp", relativePath := "a.cpp", size := 20 }
    have numbered : begun.progress.Numbered byDefault.writer 5 := Progress.numbered_begin _ 2 5
    have ok : (byDefault.collectFile file 5 begun).1 = .ok 7 :=
      eq_ok_of_toOption (by decide +kernel)
    exact ⟨file, begun, numbered, rfl, ok, (single file 5 begun numbered rfl).1⟩
  · obtain ⟨p, ok, next⟩
        : ∃ p, (byDefault.collectFiles twoSources twoListed 5).result = .ok p
            ∧ p.nextIndex = 8 :=
      exists_ok_of_toOption (by decide +kernel)
    exact ⟨p, ok, next, result p ok, length p ok⟩

end Collector

end Casebook
