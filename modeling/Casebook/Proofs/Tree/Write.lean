import Casebook.Proofs.Tree.Destination
import Casebook.Proofs.Tree.Insert

/-! What writing a text changes in a tree. It stands at the location its path leads to, as far as
the tree takes it, and no path leads elsewhere afterwards, so what was found before the write is
found after it.
-/

namespace Casebook.Tree

/-- The bytes of a text are read as the text. -/
theorem fromUTF8?_toUTF8 (text : String)
    : String.fromUTF8? text.toUTF8 = some text := by
  have valid : text.toUTF8.IsValidUTF8 := text.isValidUTF8
  exact dif_pos valid

/-- A path that leads to a text is read as the text. -/
theorem readText_eq_ok {t : Tree} {path text : String} {q : Location}
    (leads : t.destination? path = some q) (stands : t.get? q = some (.file text.toUTF8))
    : t.readText path = .ok text := by
  have found : t.stat path = .ok (q, .file text.toUTF8) := stat_eq_ok_iff.mpr ⟨leads, stands⟩
  rw [readText, found]
  simp only [bind, Except.bind, fromUTF8?_toUTF8]

/-- Trees that find the same at a path read the same there. -/
theorem readText_congr {t t' : Tree} {path : String} (same : t'.stat path = t.stat path)
    : t'.readText path = t.readText path := by
  rw [readText, readText, same]

/-- Nothing stands at the destination of a path at which nothing is found. -/
theorem absent_of_not_pathExists {t : Tree} {path : String} {q : Location}
    (missing : t.pathExists path = false) (leads : t.destination? path = some q)
    : t.get? q = none := by
  cases stands : t.get? q with
  | none => rfl
  | some entry =>
    have found : t.stat path = .ok (q, entry) := stat_eq_ok_iff.mpr ⟨leads, stands⟩
    rw [pathExists, found] at missing
    cases missing

/-- A file may be written at a location: nothing stands there that is not a file. -/
def IsFree (t : Tree) (q : Location) : Prop :=
  ∀ entry, t.get? q = some entry → ∃ bytes, entry = .file bytes

/-- The second tree is the first with some files written, at locations that were free for them. -/
structure FilesWritten (t t' : Tree) : Prop where
  home : t'.home = t.home
  medium : t'.medium = t.medium
  places : ∀ q, t'.get? q = t.get? q ∨ t.IsFree q ∧ ∃ bytes, t'.get? q = some (.file bytes)

theorem FilesWritten.refl (t : Tree) : t.FilesWritten t :=
  ⟨rfl, rfl, fun _ => .inl rfl⟩

theorem FilesWritten.trans {t t' t'' : Tree} (first : t.FilesWritten t')
    (second : t'.FilesWritten t'')
    : t.FilesWritten t'' where
  home := second.home.trans first.home
  medium := second.medium.trans first.medium
  places q := by
    rcases second.places q with same | ⟨free, stands⟩
    · rw [same]
      exact first.places q
    -- Where both write, the first found the location free.
    · rcases first.places q with same | ⟨free', _⟩
      · exact .inr ⟨fun entry before => free entry (same.trans before), stands⟩
      · exact .inr ⟨free', stands⟩

/-- Putting a file where a file may be written writes one file. -/
theorem filesWritten_insert {t : Tree} {q : Location} (below : q ≠ []) (free : t.IsFree q)
    (bytes : ByteArray)
    : t.FilesWritten (t.insert q (.file bytes)) where
  home := home_insert t q _
  medium := medium_insert t q _
  places other := by
    rw [get?_insert below]
    by_cases same : other = q
    · rw [if_pos same, same]
      exact .inr ⟨free, bytes, rfl⟩
    · rw [if_neg same]
      exact .inl rfl

/-- Where no file is, writing files changes nothing and has changed nothing. -/
theorem FilesWritten.get?_iff {t t' : Tree} (written : t.FilesWritten t') (entry : Entry)
    (noFile : ∀ bytes, entry ≠ .file bytes) (q : Location)
    : t'.get? q = some entry ↔ t.get? q = some entry := by
  rcases written.places q with same | ⟨free, bytes, stands⟩
  · rw [same]
  · constructor
    · intro now
      exact absurd (Option.some.inj (now.symm.trans stands)) (noFile bytes)
    · intro before
      obtain ⟨bytes, isFile⟩ := free entry before
      exact absurd isFile (noFile bytes)

/-- Written files stand in no path's way and open none: the ways through both trees are the same.
-/
theorem FilesWritten.widens {t t' : Tree} (written : t.FilesWritten t')
    : t.Widens t' ∧ t'.Widens t := by
  have directories := written.get?_iff .directory nofun
  have links (q : Location) (target : String) := written.get?_iff (.link target) nofun q
  exact ⟨⟨written.home, fun q => (directories q).mpr, links⟩,
    ⟨written.home.symm, fun q => (directories q).mp, fun q target => (links q target).symm⟩⟩

/-- Writing files moves no path. -/
theorem FilesWritten.destination?_eq {t t' : Tree} (written : t.FilesWritten t') (path : String)
    (purpose : Purpose)
    : t'.destination? path purpose = t.destination? path purpose :=
  Option.ext fun _ =>
    ⟨fun leads => written.widens.2.destination? leads,
      fun leads => written.widens.1.destination? leads⟩

/-- Once files are written, a path finds what then stands where it led before. -/
theorem FilesWritten.stat_eq_ok {t t' : Tree} (written : t.FilesWritten t') {path : String}
    {q : Location} {entry : Entry} (leads : t.destination? path = some q)
    (stands : t'.get? q = some entry)
    : t'.stat path = .ok (q, entry) :=
  stat_eq_ok_iff.mpr ⟨(written.destination?_eq path .find).trans leads, stands⟩

/-- A directory that a path leads to is no place to write a file, so it is found there still. -/
theorem FilesWritten.stat_directory {t t' : Tree} (written : t.FilesWritten t') {path : String}
    {q : Location} (found : t.stat path = .ok (q, .directory))
    : t'.stat path = .ok (q, .directory) := by
  obtain ⟨leads, stands⟩ := stat_eq_ok_iff.mp found
  exact written.stat_eq_ok leads ((written.get?_iff .directory nofun q).mpr stands)

/-- A path that leads to something leads to the same place once files are written. -/
theorem FilesWritten.exists_stat {t t' : Tree} (written : t.FilesWritten t') {path : String}
    {q : Location} {entry : Entry} (found : t.stat path = .ok (q, entry))
    : ∃ entry', t'.stat path = .ok (q, entry') := by
  obtain ⟨leads, stands⟩ := stat_eq_ok_iff.mp found
  rcases written.places q with same | ⟨-, bytes, file⟩
  · exact ⟨entry, written.stat_eq_ok leads (same.trans stands)⟩
  · exact ⟨.file bytes, written.stat_eq_ok leads file⟩

/-- Where nothing stands once files are written, nothing stood before. -/
theorem FilesWritten.absent {t t' : Tree} (written : t.FilesWritten t') {q : Location}
    (absent : t'.get? q = none)
    : t.get? q = none := by
  rcases written.places q with same | ⟨-, _, file⟩
  · exact same.symm.trans absent
  · cases absent.symm.trans file

theorem FilesWritten.pathExists {t t' : Tree} (written : t.FilesWritten t') {path : String}
    (found : t.pathExists path = true)
    : t'.pathExists path = true := by
  unfold Tree.pathExists at found ⊢
  cases before : t.stat path with
  | error cause =>
    rw [before] at found
    cases found
  | ok ended =>
    obtain ⟨entry', after⟩ := written.exists_stat before
    rw [after]
    rfl

/-- Paths that lead to one entry do so after files have been written. -/
theorem FilesWritten.isSame {t t' : Tree} (written : t.FilesWritten t') {path other : String}
    (same : t.isSame path other = true)
    : t'.isSame path other = true := by
  obtain ⟨q, entry, found, otherFound⟩ := stat_of_isSame same
  obtain ⟨entry', otherFound'⟩ := written.exists_stat otherFound
  obtain ⟨leads, -⟩ := stat_eq_ok_iff.mp found
  exact isSame_of_destination? (written.widens.1.destination? leads) otherFound'

/-- Whoever looks for a place to write finds the one that is read at the path, by induction on
the way there.
-/
theorem Leads.find_of_writeFile {t : Tree} {links : Nat} {place : Location} {path : List Step}
    {found : Place} (leads : t.Leads .writeFile links place path found)
    : t.Leads .find links place path found := by
  induction leads with
  | done => exact .done
  | stay directory stays _ ih => exact .stay directory stays ih
  | up directory _ ih => exact .up directory ih
  | down directory admitted goesOn below _ ih =>
    exact .down directory ⟨rfl, admitted.2⟩ goesOn below ih
  | link directory admitted followed stands nonempty _ ih =>
    exact .link directory ⟨rfl, admitted.2⟩ followed stands nonempty ih
  | entry directory admitted ends stands notFollowed =>
    exact .entry directory ⟨rfl, admitted.2⟩ ends stands notFollowed
  | vacant directory admitted ends absent =>
    exact .vacant directory ⟨rfl, admitted.2⟩ ends absent

/-- Where a path is written is where it leads. -/
theorem destination?_of_writeFile {t : Tree} {path : String} {q : Location}
    (leads : t.destination? path .writeFile = some q)
    : t.destination? path = some q := by
  obtain ⟨found, located, rfl⟩ := destination?_eq_some_iff.mp leads
  obtain ⟨isPath, way⟩ := locate_eq_ok_iff.mp located
  exact destination?_eq_some_iff.mpr
    ⟨found, locate_eq_ok_iff.mpr ⟨isPath, way.find_of_writeFile⟩, rfl⟩

-----------------------------------------------------------------------------------------
-- Texts
-----------------------------------------------------------------------------------------

/-- Nothing ever stops the bytes for a file of the tree that is open. -/
def TakesAll (t : Tree) : Prop :=
  ∀ entries place bytes,
    t.medium.writing? entries place bytes = none ∧ t.medium.flushing? entries place bytes = none

/-- What a tree takes depends on what it is kept on. -/
theorem TakesAll.congr {t t' : Tree} (takes : t.TakesAll) (same : t'.medium = t.medium)
    : t'.TakesAll := by
  unfold TakesAll
  rw [same]
  exact takes

theorem TakesAll.fault?_eq_none {t : Tree} (takes : t.TakesAll) (place : Location)
    (bytes : ByteArray)
    : t.fault? place bytes = none := by
  obtain ⟨writing, flushing⟩ := takes t.entries place bytes
  rw [fault?, writing, flushing]
  rfl

/-- A file is made or rewritten where its path leads, below the top and only over a file. -/
theorem fileTarget_eq_ok {t : Tree} {path : String} {q : Location} (target : t.fileTarget path = .ok q)
    : t.destination? path .writeFile = some q ∧ q ≠ [] ∧ t.IsFree q := by
  unfold fileTarget at target
  cases located : t.locate path .writeFile with
  | error cause => simp [located, bind, Except.bind] at target
  | ok found =>
    simp only [located, bind, Except.bind] at target
    cases found with
    | vacant place =>
      -- Nothing stands there at all.
      obtain ⟨absent, below⟩ := (locate_eq_ok_iff.mp located).2.vacant_absent
      cases target
      refine ⟨destination?_eq_some_iff.mpr ⟨_, located, rfl⟩, below, fun entry stands => ?_⟩
      exact absurd (absent.symm.trans stands) nofun
    | entry place =>
      dsimp only at target
      split at target
      next bytes stands =>
        cases target
        refine ⟨destination?_eq_some_iff.mpr ⟨_, located, rfl⟩, ?_, fun entry before => ?_⟩
        · rintro rfl
          cases stands
        · exact ⟨bytes, Option.some.inj (before.symm.trans stands)⟩
      next => cases target

/-- What comes of writing a text at a path. There is no place for a file, and nothing changes; or
the whole text stands at the place of the file; or something stopped it on the way there, and the
file has what it had taken by then.
-/
inductive TextWritten (t : Tree) (path text : String) : Except IoError Unit → Tree → Prop
  | refused {cause} (noPlace : t.fileTarget path = .error cause)
    : t.TextWritten path text (.error cause) t
  | whole {q} (target : t.fileTarget path = .ok q)
    : t.TextWritten path text (.ok ()) (t.insert q (.file text.toUTF8))
  | brokenOff {q} {fault : Fault} (target : t.fileTarget path = .ok q) (faulty : ¬ t.TakesAll)
    : t.TextWritten path text (.error fault.cause)
        (t.insert q (.file (text.toUTF8.extract 0 fault.taken)))

theorem textWritten_writeText (t : Tree) (path text : String)
    : t.TextWritten path text (t.writeText path text).1 (t.writeText path text).2 := by
  unfold writeText createFile
  cases target : t.fileTarget path with
  | error cause => exact .refused target
  | ok q =>
    simp only [bind, Except.bind]
    unfold fill
    cases stopped : (t.insert q (.file .empty)).fault? q text.toUTF8 with
    | none =>
      rw [insert_insert]
      exact .whole target
    | some fault =>
      dsimp only
      rw [insert_insert]
      refine .brokenOff target fun takes => ?_
      rw [(takes.congr (medium_insert t q _)).fault?_eq_none] at stopped
      cases stopped

/-- A text that was written stands at the place of its file. -/
theorem writeText_eq_ok {t : Tree} {path text : String} (ok : (t.writeText path text).1 = .ok ())
    : ∃ q,
        t.fileTarget path = .ok q
        ∧ (t.writeText path text).2 = t.insert q (.file text.toUTF8) := by
  have written := t.textWritten_writeText path text
  rw [ok] at written
  generalize (t.writeText path text).2 = after at written
  cases written with
  | whole target => exact ⟨_, target, rfl⟩

/-- A text that was written is read at its path. -/
theorem readText_of_writeText {t : Tree} {path text : String}
    (ok : (t.writeText path text).1 = .ok ())
    : (t.writeText path text).2.readText path = .ok text := by
  obtain ⟨q, target, after⟩ := writeText_eq_ok ok
  obtain ⟨leads, below, free⟩ := fileTarget_eq_ok target
  have isWritten := filesWritten_insert below free text.toUTF8
  rw [after]
  refine readText_eq_ok
    ((isWritten.destination?_eq path .find).trans (destination?_of_writeFile leads)) ?_
  rw [get?_insert below, if_pos rfl]

end Casebook.Tree
