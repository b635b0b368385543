import Casebook.Proofs.Collector.Reached

/-! What comes of collecting sources. A source is skipped, refused or written, and a run over
sources collects one after the other until one cannot be collected.
-/

namespace Casebook.Collector

/-- What comes of collecting a source, and the state that it leaves. A source that cannot be read is
skipped or refused, one that ends inside a literal is refused by a strict run, and the literals of
all others are written, once it is said what is left open.
-/
inductive FileCollected (k : Collector) (file : Source) (s : Collecting)
    : Except Failure Nat → Collecting → Prop
  | skipped {cause} (skips : k.skipUnreadable = true)
    (unread : s.tree.readText file.path = .error cause)
    : k.FileCollected file s (.ok s.progress.nextIndex)
        { s with
          progress := (s.progress.enter file.relativePath).warn (skipWarning file cause) }
  | unread {cause} (refuses : k.skipUnreadable = false)
    (unread : s.tree.readText file.path = .error cause)
    : k.FileCollected file s (.error (.unreadableInput file.path cause))
        { s with progress := s.progress.enter file.relativePath }
  | leftOpen {text u} (strict : k.strict = true) (read : s.tree.readText file.path = .ok text)
    (left : (k.marker.scan text).unterminated = some u)
    : k.FileCollected file s (.error (.unterminatedLiteral file.path u.line u.delimiter))
        { s with progress := s.progress.enter file.relativePath }
  | written {text said outcome last} (read : s.tree.readText file.path = .ok text)
    (closed : k.strict = true → (k.marker.scan text).unterminated = none)
    (tells : k.Reaches s [] { s with progress := said })
    (next : said.nextIndex = s.progress.nextIndex)
    (scanned : said.filesScanned = s.progress.filesScanned + 1)
    (warnings
      : said.warnings
        = s.progress.warnings
          ++ ((k.marker.scan text).unterminated.map (discardWarning file)).toList)
    (writes
      : k.writeAll file (k.marker.scan text).literals s.progress.nextIndex
            { s with progress := said }
          = (outcome, last))
    : k.FileCollected file s outcome last

variable {k : Collector} {s : Collecting} {file : Source} {files : List Source} {counter : Nat}
  {p : Progress}

/-- The literals of a source have the next numbers, whatever was said of the source before. -/
theorem fileCollected_collectFile (file : Source) (next : s.progress.nextIndex = counter)
    : k.FileCollected file s (k.collectFile file counter s).1 (k.collectFile file counter s).2 := by
  subst next
  have entered : k.Reaches s [] { s with progress := s.progress.enter file.relativePath } :=
    Reaches.here.enter file.relativePath
  unfold collectFile
  cases read : s.tree.readText file.path with
  | error cause =>
    dsimp only
    split
    next skips => exact .skipped skips read
    next refuses => exact .unread (Bool.eq_false_iff.mpr refuses) read
  | ok text =>
    dsimp only
    cases left : (k.marker.scan text).unterminated with
    | none =>
      refine .written read (fun _ => left) entered rfl rfl ?_ rfl
      rw [left]
      exact (List.append_nil _).symm
    | some u =>
      dsimp only
      split
      next strict => exact .leftOpen strict read left
      next lenient =>
        refine .written read (fun strict => absurd strict lenient)
          (entered.warn (discardWarning file u)) rfl rfl ?_ rfl
        rw [left]
        rfl

theorem fileCollected_of_eq {outcome : Except Failure Nat} {last : Collecting}
    (next : s.progress.nextIndex = counter)
    (collected : k.collectFile file counter s = (outcome, last))
    : k.FileCollected file s outcome last := by
  have inverted := fileCollected_collectFile (k := k) file next
  rwa [collected] at inverted

variable {after : Nat} {last : Collecting}

/-- A source that is collected has all its literals written, and all said of it that is to be said.
-/
theorem collectFile_ok (next : s.progress.nextIndex = counter)
    (ok : k.collectFile file counter s = (.ok after, last))
    : k.Reaches s ((s.tree.literalsOf k.marker file).map (file, ·)) last
      ∧ after = last.progress.nextIndex
      ∧ last.progress.warnings
        = s.progress.warnings ++ (s.tree.warningOf? k.marker file).toList := by
  cases fileCollected_of_eq next ok with
  | skipped _ unread =>
    rw [Tree.literalsOf, Tree.warningOf?, unread]
    exact ⟨(Reaches.here.enter file.relativePath).warn _, rfl, rfl⟩
  | @written text said _ _ read _ tells next _ warnings writes =>
    rw [Tree.literalsOf, Tree.warningOf?, read]
    have kept := (writeAll_keeps (k := k) file (k.marker.scan text).literals s.progress.nextIndex
      { s with progress := said }).2
    rw [writes] at kept
    cases literalsWritten_of_eq next writes with
    | all reached => exact ⟨tells.trans reached, rfl, kept.trans warnings⟩

/-- Collecting a source ends with the first of its literals written, whether it succeeds or not. -/
theorem collectFile_leaves (file : Source) (next : s.progress.nextIndex = counter)
    : ∃ (done : List Literal) (broken? : Option Literal),
        done <+: s.tree.literalsOf k.marker file
        ∧ k.Leaves s (done.map (file, ·)) (broken?.map (file, ·))
            (k.collectFile file counter s).2 := by
  have entered : k.Reaches s [] { s with progress := s.progress.enter file.relativePath } :=
    Reaches.here.enter file.relativePath
  cases collected : k.collectFile file counter s with
  | mk outcome last =>
    cases fileCollected_of_eq next collected with
    | skipped => exact ⟨[], none, List.nil_prefix, .whole (entered.warn _)⟩
    | unread => exact ⟨[], none, List.nil_prefix, .whole entered⟩
    | leftOpen => exact ⟨[], none, List.nil_prefix, .whole entered⟩
    | written read _ tells next _ _ writes =>
      rw [Tree.literalsOf, read]
      obtain ⟨done, broken?, isPrefix, leaves⟩ := (literalsWritten_of_eq next writes).exists_leaves
      exact ⟨done, broken?, isPrefix, tells.leaves leaves⟩

/-- Collecting a source takes up one source, whether it succeeds or not. -/
theorem collectFile_filesScanned (file : Source) (next : s.progress.nextIndex = counter)
    : (k.collectFile file counter s).2.progress.filesScanned = s.progress.filesScanned + 1 := by
  cases collected : k.collectFile file counter s with
  | mk outcome last =>
    cases fileCollected_of_eq next collected with
    | skipped => rfl
    | unread => rfl
    | leftOpen => rfl
    | @written text said _ _ _ _ _ _ scanned _ writes =>
      have kept := (writeAll_keeps (k := k) file (k.marker.scan text).literals
        s.progress.nextIndex { s with progress := said }).1
      rw [writes] at kept
      exact kept.trans scanned

-----------------------------------------------------------------------------------------
-- Many sources
-----------------------------------------------------------------------------------------

/-- The state in which a run over sources ends, behind the last of them or at a failure. -/
def endOf (k : Collector) : List Source → Nat → Collecting → Collecting
  | [], _, s => s
  | file :: rest, counter, s =>
    match k.collectFile file counter s with
    | (.error _, after) => after
    | (.ok next, after) => k.endOf rest next after

/-- A run over sources leaves the tree of the state it ends in, and has a result only if that is
all of the state's progress. By induction on the sources.
-/
theorem collectRest_eq_endOf (files : List Source) (counter : Nat) (s : Collecting)
    : (k.collectRest files counter s).tree = (k.endOf files counter s).tree
      ∧ ∀ p, (k.collectRest files counter s).result = .ok p →
          p = (k.endOf files counter s).progress := by
  induction files generalizing counter s with
  | nil => exact ⟨rfl, fun p ok => (Except.ok.inj ok).symm⟩
  | cons file rest ih =>
    rw [collectRest, endOf]
    cases k.collectFile file counter s with
    | mk outcome after =>
      cases outcome with
      | error failure => exact ⟨rfl, nofun⟩
      | ok next => exact ih next after

/-- What is written of a source is written of one of the sources. -/
private theorem fst_mem_of_mem_map {done : List Literal} {rest : List Source} {w : Source × Literal}
    (member : w ∈ done.map (file, ·))
    : w.1 ∈ file :: rest := by
  obtain ⟨_, -, rfl⟩ := List.mem_map.mp member
  exact List.mem_cons_self

/-- A run over sources ends with literals of them written, and perhaps with one more broken off. By
induction on the sources.
-/
theorem endOf_leaves (files : List Source) (next : s.progress.nextIndex = counter)
    : ∃ written broken?,
        k.Leaves s written broken? (k.endOf files counter s)
        ∧ (∀ w ∈ written, w.1 ∈ files)
        ∧ ∀ w ∈ broken?, w.1 ∈ files := by
  induction files generalizing counter s with
  | nil => exact ⟨[], none, .whole .here, nofun, nofun⟩
  | cons file rest ih =>
    obtain ⟨done, broken?, -, leaves⟩ := collectFile_leaves (k := k) file next
    rw [endOf]
    cases collected : k.collectFile file counter s with
    | mk outcome after =>
      rw [collected] at leaves
      cases outcome with
      | error failure =>
        refine ⟨_, _, leaves, fun w member => fst_mem_of_mem_map member, fun w member => ?_⟩
        obtain ⟨l, -, rfl⟩ := Option.map_eq_some_iff.mp member
        exact List.mem_cons_self
      | ok counter =>
        obtain ⟨reached, counted, -⟩ := collectFile_ok next collected
        obtain ⟨written, broken?, later, ofRest, brokenOfRest⟩ := ih counted.symm
        refine ⟨_, broken?, reached.leaves later, fun w member => ?_, fun w member =>
          List.mem_cons_of_mem file (brokenOfRest w member)⟩
        rcases List.mem_append.mp member with first | behind
        · exact fst_mem_of_mem_map first
        · exact List.mem_cons_of_mem file (ofRest w behind)

/-- A run over sources that gets to its end has reached the state it ends in by writing literals of
them. By induction on the sources.
-/
theorem collectRest_reaches (files : List Source) (next : s.progress.nextIndex = counter)
    (ok : (k.collectRest files counter s).result = .ok p)
    : ∃ written last,
        k.Reaches s written last
        ∧ (k.collectRest files counter s).tree = last.tree
        ∧ p = last.progress := by
  induction files generalizing counter s with
  | nil => exact ⟨[], s, .here, rfl, (Except.ok.inj ok).symm⟩
  | cons file rest ih =>
    rw [collectRest] at ok ⊢
    cases collected : k.collectFile file counter s with
    | mk outcome after =>
      rw [collected] at ok
      cases outcome with
      | error failure => cases ok
      | ok counter =>
        obtain ⟨reached, counted, -⟩ := collectFile_ok next collected
        obtain ⟨written, last, later, tree, result⟩ := ih counted.symm ok
        exact ⟨_, last, reached.trans later, tree, result⟩

/-- A run over sources only counts up. -/
theorem casesWritten_le_endOf (files : List Source) (next : s.progress.nextIndex = counter)
    : s.progress.casesWritten ≤ (k.endOf files counter s).progress.casesWritten := by
  obtain ⟨_, _, leaves, -⟩ := endOf_leaves (k := k) files next
  rw [leaves.casesWritten]
  exact Nat.le_add_right _ _

/-- A run over sources that succeeds only counts up. -/
theorem casesWritten_le_of_collectRest (next : s.progress.nextIndex = counter)
    (ok : (k.collectRest files counter s).result = .ok p)
    : s.progress.casesWritten ≤ p.casesWritten := by
  rw [(collectRest_eq_endOf files counter s).2 p ok]
  exact casesWritten_le_endOf files next

end Casebook.Collector
