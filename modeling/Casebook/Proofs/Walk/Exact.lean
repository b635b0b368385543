import Casebook.Proofs.Evaluation
import Casebook.Proofs.Tree.Destination
import Casebook.Proofs.Walk.Congruence
import Casebook.Proofs.Walk.Listed
import Casebook.Proofs.Walk.Unfollowed

/-! What a walk that follows no links lists. Such a walk can read all that it meets, so its listing
has every source below the root, each once, and no complaint.
-/

namespace Casebook

/-- A file with some bytes stands at a location with a path, or a link whose path leads to one. -/
def Tree.HoldsFile (t : Tree) (path : String) (place : Tree.Location) (bytes : ByteArray) : Prop :=
  t.get? place = some (.file bytes)
  ∨ (∃ target, t.get? place = some (.link target)) ∧ ∃ q, t.stat path = .ok (q, .file bytes)

theorem Tree.not_holdsFile_of_directory {t : Tree} {path : String} {place : Tree.Location}
    {bytes : ByteArray} (stands : t.get? place = some .directory)
    : ¬ t.HoldsFile path place bytes := by
  simp [HoldsFile, stands]

theorem Tree.holdsFile_of_file {t : Tree} {path : String} {place : Tree.Location}
    {bytes other : ByteArray} (stands : t.get? place = some (.file bytes))
    : t.HoldsFile path place other ↔ other = bytes := by
  simp [HoldsFile, stands, eq_comm]

theorem Tree.holdsFile_of_link {t : Tree} {path target : String} {place : Tree.Location}
    {bytes : ByteArray} (stands : t.get? place = some (.link target))
    : t.HoldsFile path place bytes ↔ ∃ q, t.stat path = .ok (q, .file bytes) := by
  simp [HoldsFile, stands]

namespace Walker

/-- Names lead from the directory that is the root of a walk to a source: the walk gets to what they
lead to, and that is a file or a link to one, with a path that is read.
-/
structure LeadToSource (w : Walker) (t : Tree) (root : String) (place : Tree.Location)
    (names : List Tree.Name) (file : Source)
    : Prop where
  meets : w.Meets t root place 0 names
  relativePath : file.relativePath = Path.ofNames names
  path : file.path = Path.join root file.relativePath
  isSource : w.filter.isSource file.path = true
  size : ∃ bytes, t.HoldsFile file.path (names.reverse ++ place) bytes ∧ file.size = bytes.size

/-- One source comes before another when the components of its path below the root do, by their
bytes.
-/
def Earlier (a b : Source) : Prop :=
  Path.componentBytes a.relativePath < Path.componentBytes b.relativePath

variable {w : Walker} {t : Tree} {root path relativePath : String} {place : Tree.Location}
  {names : List Tree.Name} {depth : Nat}

/-- What a walk gets to and is no link is found at its path, by induction on the names. -/
theorem Meets.stat {entry : Tree.Entry} (meets : w.Meets t path place depth names)
    (found : t.stat path = .ok (place, .directory)) (fits : t.FitsBelow path place)
    (stands : t.get? (names.reverse ++ place) = some entry)
    (noLink : ∀ target, entry ≠ .link target)
    : t.stat (Path.below path names) = .ok (names.reverse ++ place, entry) := by
  induction names generalizing path place depth with
  | nil => exact absurd rfl meets.nonempty
  | cons n rest ih =>
    rw [List.reverse_cons, List.append_assoc, List.singleton_append] at stands ⊢
    obtain ⟨-, first, here, -, rfl | ⟨rfl, meets⟩⟩ := meets_cons_iff.mp meets
    · exact fits.stat found stands noLink
    · exact ih meets (fits.stat found here nofun) (fits.into n) stands

/-- A file that is found at its path is a source, if it is the root or its path is read. -/
theorem judgeFile_of_file {rootIsDirectory : Bool} {q : Tree.Location} {bytes : ByteArray}
    (found : t.stat path = .ok (q, .file bytes))
    : w.judgeFile t rootIsDirectory path relativePath
      = if rootIsDirectory && !w.filter.isSource path then .ignored
        else .source { path := path, relativePath := relativePath, size := bytes.size } := by
  rw [judgeFile, found]

/-- A link that was not followed is judged as the file that it leads to. -/
theorem judge_link_of_file {rootIsDirectory : Bool} {q : Tree.Location} {bytes : ByteArray}
    (found : t.stat path = .ok (q, .file bytes))
    : w.judge t rootIsDirectory (.link path relativePath)
      = w.judgeFile t rootIsDirectory path relativePath := by
  rw [judge, Tree.isFile, found, if_pos rfl]

/-- A link that was not followed is no source if it leads to no file. -/
theorem judge_link_of_other {rootIsDirectory : Bool}
    (other : ∀ q bytes, t.stat path ≠ .ok (q, .file bytes))
    : w.judge t rootIsDirectory (.link path relativePath) = .ignored := by
  have noFile : t.isFile path = false := by
    unfold Tree.isFile
    split
    next q bytes found => exact absurd found (other q bytes)
    next => rfl
  rw [judge, noFile, if_neg Bool.false_ne_true]

/-- Names that lead to the only file that is held there lead to a source if its path is read. -/
theorem Meets.judgeFile {q : Tree.Location} {bytes : ByteArray}
    (meets : w.Meets t root place 0 names)
    (found : t.stat (Path.below root names) = .ok (q, .file bytes))
    (holds
      : ∀ other, t.HoldsFile (Path.below root names) (names.reverse ++ place) other ↔ other = bytes)
    : (w.judgeFile t true (Path.below root names) (Path.ofNames names)).failure? = none
      ∧ ∀ file,
          w.judgeFile t true (Path.below root names) (Path.ofNames names) = .source file
            ↔ w.LeadToSource t root place names file := by
  have joined := Path.join_ofNames root meets.nonempty
  rw [judgeFile_of_file found, Bool.true_and]
  cases read : w.filter.isSource (Path.below root names) with
  | false =>
    refine ⟨rfl, fun file => ⟨nofun, fun leads => ?_⟩⟩
    have isSource := leads.isSource
    rw [leads.path, leads.relativePath, joined, read] at isSource
    cases isSource
  | true =>
    refine ⟨rfl, fun file => ⟨fun source => ?_, fun leads => ?_⟩⟩
    · cases source
      exact ⟨meets, rfl, joined.symm, read, bytes, (holds bytes).mpr rfl, rfl⟩
    · obtain ⟨other, held, size⟩ := leads.size
      have path : file.path = Path.below root names := by
        rw [leads.path, leads.relativePath, joined]
      rw [path, holds] at held
      subst held
      have relativePath := leads.relativePath
      cases file
      cases path
      cases relativePath
      cases size
      rfl

/-- What a walk gets to can be read, and it is a source exactly if the names lead to one. -/
theorem Meets.judge (meets : w.Meets t root place 0 names)
    (found : t.stat root = .ok (place, .directory)) (fits : t.FitsBelow root place)
    : (w.judge t true (visitAt t root [] place names)).failure? = none
      ∧ ∀ file,
          w.judge t true (visitAt t root [] place names) = .source file
            ↔ w.LeadToSource t root place names file := by
  obtain ⟨entry, stands, -⟩ := meets.stands
  have path {file} (leads : w.LeadToSource t root place names file)
      : file.path = Path.below root names := by
    rw [leads.path, leads.relativePath, Path.join_ofNames root meets.nonempty]
  cases entry with
  | directory =>
    have visit : visitAt t root [] place names = .directory (Path.below root names) := by
      rw [visitAt, stands]
    rw [visit]
    refine ⟨rfl, fun file => ⟨fun source => ?_, fun leads => ?_⟩⟩
    · cases source
    · obtain ⟨bytes, held, -⟩ := leads.size
      exact absurd held (Tree.not_holdsFile_of_directory stands)
  | file bytes =>
    have visit
        : visitAt t root [] place names = .file (Path.below root names) (Path.ofNames names) := by
      rw [visitAt, stands]
      rfl
    rw [visit]
    exact meets.judgeFile (meets.stat found fits stands (by simp))
      fun other => Tree.holdsFile_of_file stands
  | link target =>
    have visit
        : visitAt t root [] place names = .link (Path.below root names) (Path.ofNames names) := by
      rw [visitAt, stands]
      rfl
    rw [visit]
    by_cases leads : ∃ q bytes, t.stat (Path.below root names) = .ok (q, .file bytes)
    · obtain ⟨q, bytes, found⟩ := leads
      rw [judge_link_of_file found]
      refine meets.judgeFile found fun other => (Tree.holdsFile_of_link stands).trans ?_
      simp [found, eq_comm]
    · rw [judge_link_of_other fun q bytes found => leads ⟨q, bytes, found⟩]
      refine ⟨rfl, fun file => ⟨fun same => ?_, fun source => absurd ?_ leads⟩⟩
      · cases same
      · obtain ⟨bytes, held, -⟩ := source.size
        obtain ⟨q, found⟩ := (Tree.holdsFile_of_link stands).mp held
        exact ⟨q, bytes, path source ▸ found⟩

/-- A walk that can read all that it meets lists the sources among that. -/
theorem list_of_readable {entry : Tree.Entry} {isDirectory : Bool}
    (found : t.stat root = .ok (place, entry))
    (known : decide (entry = .directory) = isDirectory)
    (readable : ∀ visit ∈ w.visits t root, (w.judge t isDirectory visit).failure? = none)
    : w.list t root
      = .ok
          {
            files :=
              (w.visits t root).filterMap fun visit => (w.judge t isDirectory visit).source?
            skipped := []
          } := by
  have noFailure
      : ((w.visits t root).map (w.judge t isDirectory)).findSome? Verdict.failure? = none := by
    refine List.findSome?_eq_none_iff.mpr fun verdict member => ?_
    obtain ⟨visit, met, rfl⟩ := List.mem_map.mp member
    exact readable visit met
  have noComplaint := Verdict.noFailure_iff_noComplaint.mp noFailure
  rw [list, found]
  dsimp only
  rw [known, noFailure, noComplaint, ite_self, List.filterMap_map]
  rfl

/-- A walk that follows no links goes on below its root if that is a directory or a link to one, and
the root itself is no source then.
-/
theorem visits_of_directory (unfollowed : w.followLinks = false)
    (found : t.stat root = .ok (place, .directory))
    : ∃ first,
        w.visits t root = first :: w.below t [(place, root)] root [] place
        ∧ w.judge t true first = .ignored := by
  rcases Tree.linkStat_of_stat found with here | ⟨q, target, link⟩
  · exact ⟨.directory root, by rw [visits, here], rfl⟩
  · refine ⟨.link root ((Path.fileName? root).getD root), ?_, judge_link_of_other ?_⟩
    · simp only [visits, link, found, unfollowed, Bool.false_eq_true, if_false]
    · intro q' bytes file
      cases found.symm.trans file

/-- A walk that follows no links meets its root alone if that is no directory and no link to one,
and it is a source if it is a file or a link to one.
-/
theorem visits_of_other {entry : Tree.Entry} (unfollowed : w.followLinks = false)
    (found : t.stat root = .ok (place, entry)) (other : entry ≠ .directory)
    : ∃ visit,
        w.visits t root = [visit]
        ∧ (w.judge t false visit).failure? = none
        ∧ ∀ bytes, entry = .file bytes →
            w.judge t false visit
            = .source
                {
                  path := root
                  relativePath := (Path.fileName? root).getD root
                  size := bytes.size
                } := by
  cases entry with
  | directory => exact absurd rfl other
  | file bytes =>
    rcases Tree.linkStat_of_stat found with here | ⟨q, target, link⟩
    · refine ⟨.file root ((Path.fileName? root).getD root), by rw [visits, here], ?_⟩
      rw [judge, judgeFile_of_file found]
      exact ⟨rfl, fun bytes same => by cases same; rfl⟩
    · refine ⟨.link root ((Path.fileName? root).getD root), ?_, ?_⟩
      · simp only [visits, link, found, unfollowed, Bool.false_eq_true, if_false]
      · rw [judge_link_of_file found, judgeFile_of_file found]
        exact ⟨rfl, fun bytes same => by cases same; rfl⟩
  | link target =>
    refine ⟨.link root ((Path.fileName? root).getD root), ?_, ?_, fun bytes same => ?_⟩
    · rcases Tree.linkStat_of_stat found with here | ⟨q, target', link⟩
      · simp only [visits, here, found, unfollowed, Bool.false_eq_true, if_false]
      · simp only [visits, link, found, unfollowed, Bool.false_eq_true, if_false]
    · rw [judge_link_of_other]
      · rfl
      · intro q bytes file
        cases found.symm.trans file
    · cases same

/-- A walk that follows no links lists exactly the sources below a directory, in order. -/
theorem list_directory (unfollowed : w.followLinks = false)
    (found : t.stat root = .ok (place, .directory)) (fits : t.FitsBelow root place)
    : ∃ files,
        w.list t root = .ok { files := files, skipped := [] }
        ∧ files.Pairwise Earlier
        ∧ ∀ file, file ∈ files ↔ ∃ names, w.LeadToSource t root place names file := by
  obtain ⟨first, visits, ignored⟩ := visits_of_directory unfollowed found
  obtain ⟨ends, below, ordered, members⟩ :=
    below_areVisits unfollowed [(place, root)] [] found fits
  have judged (names) (listed : names ∈ ends) :=
    ((members names).mp listed).judge found fits
  have sources (names) (listed : names ∈ ends) (file : Source)
      : (w.judge t true (visitAt t root [] place names)).source? = some file
        ↔ w.LeadToSource t root place names file :=
    Verdict.source?_eq_some_iff.trans ((judged names listed).2 file)
  refine ⟨ends.filterMap fun names => (w.judge t true (visitAt t root [] place names)).source?,
    ?_, ?_, fun file => ?_⟩
  · have readable (visit) (met : visit ∈ w.visits t root)
        : (w.judge t true visit).failure? = none := by
      rw [visits, below, List.mem_cons, List.mem_map] at met
      rcases met with rfl | ⟨names, listed, rfl⟩
      · exact congrArg Verdict.failure? ignored
      · exact (judged names listed).1
    rw [list_of_readable found (decide_eq_true rfl) readable, visits, below, List.filterMap_cons,
      List.filterMap_map]
    simp only [ignored]
    rfl
  · refine List.Pairwise.filterMap _ ?_ (List.Pairwise.and_mem.mp ordered)
    rintro a b ⟨ofA, ofB, earlier⟩ file source later source'
    rw [Earlier, ((sources a ofA file).mp source).relativePath,
      ((sources b ofB later).mp source').relativePath, Path.componentBytes_ofNames,
      Path.componentBytes_ofNames]
    exact earlier
  · rw [List.mem_filterMap]
    constructor
    · rintro ⟨names, listed, source⟩
      exact ⟨names, (sources names listed file).mp source⟩
    · rintro ⟨names, leads⟩
      have listed := (members names).mpr leads.meets
      exact ⟨names, listed, (sources names listed file).mpr leads⟩

/-- A walk that follows no links lists its root alone if that is a file or a link to one, whatever
the filters say.
-/
theorem list_other {entry : Tree.Entry} (unfollowed : w.followLinks = false)
    (found : t.stat root = .ok (place, entry)) (other : entry ≠ .directory)
    : ∃ files,
        w.list t root = .ok { files := files, skipped := [] }
        ∧ ∀ bytes, entry = .file bytes →
            files
            = [{
              path := root
              relativePath := (Path.fileName? root).getD root
              size := bytes.size
            }] := by
  obtain ⟨visit, visits, visitReadable, judged⟩ := visits_of_other unfollowed found other
  have readable (met) (isMet : met ∈ w.visits t root)
      : (w.judge t false met).failure? = none := by
    rw [visits, List.mem_singleton] at isMet
    rw [isMet, visitReadable]
  refine ⟨_, list_of_readable found (decide_eq_false other) readable, fun bytes isFile => ?_⟩
  rw [visits, List.filterMap_cons, judged bytes isFile]
  rfl

/-- A walk that follows no links lists exactly what it should, and complains of nothing. If its root
is a directory or leads to one, it lists each file and each link to a file below it once, in the
order of the paths, if real directories that are entered lead there, no deeper than allowed, and the
path is read. If the root is a file or leads to one, it lists that. The order in which the entries
of the tree were made plays no part.
-/
theorem list_exact (settings : ScanSettings) {entry : Tree.Entry}
    (unfollowed : settings.followLinks = false) (found : t.stat root = .ok (place, entry))
    (fits : t.FitsBelow root place)
    : ∃ files,
        (ofSettings settings).list t root = .ok { files := files, skipped := [] }
        ∧ (entry = .directory →
            files.Pairwise Earlier
            ∧ ∀ file,
                file ∈ files
                  ↔ ∃ names, (ofSettings settings).LeadToSource t root place names file)
        ∧ (∀ bytes, entry = .file bytes →
            files
            = [{
              path := root
              relativePath := (Path.fileName? root).getD root
              size := bytes.size
            }])
        ∧ ∀ t', t.Alike t' →
            (ofSettings settings).list t' root = .ok { files := files, skipped := [] } := by
  by_cases directory : entry = .directory
  · subst directory
    obtain ⟨files, listed, exact⟩ := list_directory (w := ofSettings settings) unfollowed found fits
    refine ⟨files, listed, fun _ => exact, nofun, fun t' alike => ?_⟩
    rw [list_congr alike, listed]
  · obtain ⟨files, listed, exact⟩ :=
      list_other (w := ofSettings settings) unfollowed found directory
    refine ⟨files, listed, fun is => absurd is directory, exact, fun t' alike => ?_⟩
    rw [list_congr alike, listed]

/-- A tree in which a directory comes before a file whose name goes on with a dot, with a link to
that file and a file that is no source.
-/
def dottedNames : Tree :=
  (Tree.ofTop [
    ("l.cpp", .link "a.cpp"),
    ("notes.txt", .file ByteArray.empty),
    ("a.cpp", .file "int a;\n".toUTF8),
    ("a", .directory)]).withEntry
    "a" "b.cpp" (.file "int b;\n".toUTF8)

/-- The settings of a walk that reads sources of one kind. -/
def sourcesOnly : ScanSettings where
  extensions := ["cpp"]

/-- A walk that reads sources of one kind lists the file in the directory first, and the link as the
file that it leads to.
-/
theorem list_exact_dotted_names
    : dottedNames.stat "." = .ok ([], .directory)
      ∧ dottedNames.FitsBelow "." []
      ∧ ∃ files,
          (ofSettings sourcesOnly).list dottedNames "." = .ok { files := files, skipped := [] }
          ∧ files.map (fun file => (file.relativePath, file.size))
            = [("a/b.cpp", 7), ("a.cpp", 7), ("l.cpp", 7)]
          ∧ files.Pairwise Earlier
          ∧ ∀ file,
              file ∈ files
                ↔ ∃ names, (ofSettings sourcesOnly).LeadToSource dottedNames "." [] names file := by
  have found : dottedNames.stat "." = .ok ([], .directory) :=
    eq_ok_of_toOption (by decide +kernel)
  have fits : dottedNames.FitsBelow "." [] :=
    Tree.fitsBelow_top (by decide +kernel)
  obtain ⟨files, listed, exact, -⟩ := list_exact sourcesOnly rfl found fits
  obtain ⟨listing, listed', known⟩
      : ∃ listing,
          (ofSettings sourcesOnly).list dottedNames "." = .ok listing
          ∧ listing.files.map (fun file => (file.relativePath, file.size))
            = [("a/b.cpp", 7), ("a.cpp", 7), ("l.cpp", 7)] :=
    exists_ok_of_toOption (by decide +kernel)
  cases listed.symm.trans listed'
  exact ⟨found, fits, files, listed, known, exact rfl⟩

end Walker

end Casebook
