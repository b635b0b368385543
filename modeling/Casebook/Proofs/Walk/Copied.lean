import Casebook.Proofs.Evaluation
import Casebook.Proofs.Path.Extension
import Casebook.Proofs.Tree.Below
import Casebook.Proofs.Walk.Grown

/-! Walks of copies of one tree. Wherever the copies stand, walks list the same below their roots as
long as the patterns that exclude paths, and the limits of the system, do not tell the paths below
one root from those below the other.
-/

namespace Casebook

namespace Walker

-----------------------------------------------------------------------------------------
-- What a walk tells without its root
-----------------------------------------------------------------------------------------

/-- A verdict without the paths that it names: nothing, or a path below the root with a size, or
that something cannot be read.
-/
def Verdict.outline : Verdict → Option (Option (String × Nat))
  | ignored => none
  | source file => some (some (file.relativePath, file.size))
  | unreadable .. => some none

/-- The verdicts on what a walk below a directory meets, without paths. -/
def outlines (w : Walker) (t : Tree) (visits : List Visit) : List (Option (Option (String × Nat))) :=
  visits.map fun visit => (w.judge t true visit).outline

end Walker

/-- The paths below the root and the sizes of what is listed. -/
def Listing.outline (l : Listing) : List (String × Nat) :=
  l.files.map fun file => (file.relativePath, file.size)

namespace Walker

/-- Something cannot be read just where an outline says so. -/
theorem isSome_findSome?_failure? (verdicts : List Verdict)
    : (verdicts.findSome? Verdict.failure?).isSome
      = (verdicts.map Verdict.outline).contains (some none) := by
  rw [Bool.eq_iff_iff, List.findSome?_isSome_iff, List.contains_iff_mem, List.mem_map]
  refine exists_congr fun verdict => and_congr_right fun _ => ?_
  cases verdict <;> simp [Verdict.failure?, Verdict.outline]

/-- What is listed is told by the outlines. -/
theorem map_filterMap_source? (verdicts : List Verdict)
    : (verdicts.filterMap Verdict.source?).map (fun file => (file.relativePath, file.size))
      = (verdicts.map Verdict.outline).filterMap Option.join := by
  rw [List.map_filterMap, List.filterMap_map]
  refine List.filterMap_congr fun verdict _ => ?_
  cases verdict <;> rfl

/-- The outline of a listing is told by those of the verdicts on what is met. -/
theorem outline_list (w : Walker) {t : Tree} {root : String} {top : Tree.Location}
    (found : t.stat root = .ok (top, .directory))
    : (w.list t root).toOption.map Listing.outline
      = if !w.skipUnreadable && (w.outlines t (w.visits t root)).contains (some none) then none
        else some ((w.outlines t (w.visits t root)).filterMap Option.join) := by
  have outlines
      : w.outlines t (w.visits t root)
        = ((w.visits t root).map (w.judge t true)).map Verdict.outline := by
    rw [outlines, List.map_map]
    rfl
  rw [list, found, outlines, ← map_filterMap_source?, ← isSome_findSome?_failure?]
  simp only [decide_true]
  cases w.skipUnreadable with
  | true => rfl
  | false =>
    cases ((w.visits t root).map (w.judge t true)).findSome? Verdict.failure? <;> rfl

-----------------------------------------------------------------------------------------
-- Two walks
-----------------------------------------------------------------------------------------

/-- Neither the patterns that exclude paths nor the limits of the system tell the path of an entry
below one root from its path below the other.
-/
structure TellsNot (w : Walker) (D t t' : Tree) (root root' : String) : Prop where
  patterns
    : ∀ names,
        D.Holds names →
        w.filter.excludes (Path.below root names) = w.filter.excludes (Path.below root' names)
  limits
    : ∀ names,
        D.Holds names →
        (t.IsStopped (Path.below root names) ↔ t'.IsStopped (Path.below root' names))

/-- Two walks of copies are in the same directory, at a place of the tree, and have come there
through the same directories by the same names.
-/
structure Counterparts (D t t' : Tree) (root root' : String) (top top' : Tree.Location)
    (place : Tree.Location) (p p' : Position) : Prop where
  names : p'.names = p.names
  path : p.path = Path.below root p.names
  path' : p'.path = Path.below root' p.names
  standsAt : p.place = place ++ top
  standsAt' : p'.place = place ++ top'
  found : t.stat p.path = .ok (p.place, .directory)
  found' : t'.stat p'.path = .ok (p'.place, .directory)
  reached : ∃ links, D.reach links p.names = .ok (place, .directory)
  onPath
    : List.Forall₂ (fun visited visited' => ∃ q, visited.1 = q ++ top ∧ visited'.1 = q ++ top')
        p.onPath p'.onPath

/-- Two paths lead to equal entries, or neither leads anywhere. -/
def FindAlike (t t' : Tree) (path path' : String) : Prop :=
  (∃ cause cause', t.stat path = .error cause ∧ t'.stat path' = .error cause')
  ∨ ∃ q q' entry, t.stat path = .ok (q, entry) ∧ t'.stat path' = .ok (q', entry)

variable {w : Walker} {D t t' : Tree} {root root' : String} {top top' place : Tree.Location}
  {p p' : Position} {n : Tree.Name}

theorem children_copied (stands : D.StandsAt t top) (stands' : D.StandsAt t' top')
    (place : Tree.Location)
    : t'.children (place ++ top') = t.children (place ++ top) := by
  refine Tree.Name.eq_of_pairwise_bytes (t'.pairwise_children _) (t.pairwise_children _) fun n => ?_
  rw [Tree.mem_children_iff, Tree.mem_children_iff, ← List.cons_append, ← List.cons_append,
    stands' (n :: place), stands (n :: place)]

/-- What is a file or leads to one is judged alike if it is found alike and excluded alike. -/
theorem outline_judgeFile {directory directory' : String}
    (excluded
      : w.filter.excludes (Path.join directory n.text)
        = w.filter.excludes (Path.join directory' n.text))
    (alike : FindAlike t t' (Path.join directory n.text) (Path.join directory' n.text))
    (relativePath : String)
    : (w.judgeFile t true (Path.join directory n.text) relativePath).outline
      = (w.judgeFile t' true (Path.join directory' n.text) relativePath).outline := by
  have source
      : w.filter.isSource (Path.join directory n.text)
        = w.filter.isSource (Path.join directory' n.text) := by
    simp only [Filter.isSource, excluded, Path.extension?_join]
  unfold judgeFile
  rw [source]
  split
  next => rfl
  next =>
    rcases alike with ⟨cause, cause', failed, failed'⟩ | ⟨q, q', entry, found, found'⟩
    · rw [failed, failed']
      rfl
    · rw [found, found']
      cases entry <;> rfl

/-- A link that was not followed is judged alike if it leads alike and is excluded alike. -/
theorem outline_judge_link {directory directory' : String}
    (excluded
      : w.filter.excludes (Path.join directory n.text)
        = w.filter.excludes (Path.join directory' n.text))
    (alike : FindAlike t t' (Path.join directory n.text) (Path.join directory' n.text))
    (relativePath : String)
    : (w.judge t true (.link (Path.join directory n.text) relativePath)).outline
      = (w.judge t' true (.link (Path.join directory' n.text) relativePath)).outline := by
  have isFile
      : t.isFile (Path.join directory n.text) = t'.isFile (Path.join directory' n.text) := by
    unfold Tree.isFile
    rcases alike with ⟨cause, cause', failed, failed'⟩ | ⟨q, q', entry, found, found'⟩
    · rw [failed, failed']
    · rw [found, found']
      cases entry <;> rfl
  rw [judge, judge, isFile]
  split
  next => exact outline_judgeFile excluded alike relativePath
  next => rfl

/-- Walks that do not find the directory which they are in tell no more than that. -/
theorem outlines_within_of_error {cause cause' : IoError} (names : p'.names = p.names)
    (failed : t.stat p.path = .error cause) (failed' : t'.stat p'.path = .error cause')
    : w.outlines t (w.within t p) = w.outlines t' (w.within t' p') := by
  rw [within, within, below_of_error failed, below_of_error failed', names]
  split <;> rfl

theorem isEntered_alike {directory directory' : String}
    (excluded
      : w.filter.excludes (Path.join directory n.text)
        = w.filter.excludes (Path.join directory' n.text))
    : w.filter.isEntered (Path.join directory n.text)
      = w.filter.isEntered (Path.join directory' n.text) := by
  simp only [Filter.isEntered, excluded, Path.fileName?_join]

namespace Counterparts

theorem atRoot (copy : D.CopyAt t root top) (copy' : D.CopyAt t' root' top')
    : Counterparts D t t' root root' top top' [] (.atRoot root top) (.atRoot root' top') where
  names := rfl
  path := rfl
  path' := rfl
  standsAt := rfl
  standsAt' := rfl
  found := copy.found
  found' := copy'.found
  reached := ⟨0, rfl⟩
  onPath := .cons ⟨[], rfl, rfl⟩ .nil

variable (counterparts : Counterparts D t t' root root' top top' place p p')
include counterparts

theorem pathOf (n : Tree.Name)
    : p.pathOf n = Path.below root (p.names ++ [n])
      ∧ p'.pathOf n = Path.below root' (p.names ++ [n]) := by
  rw [Position.pathOf, Position.pathOf, counterparts.path, counterparts.path', Tree.below_concat,
    Tree.below_concat]
  exact ⟨rfl, rfl⟩

/-- The walks go on to counterparts where a name leads both to the same place. -/
theorem into {q : Tree.Location} {links : Nat}
    (found : t.stat (p.pathOf n) = .ok (q ++ top, .directory))
    (found' : t'.stat (p'.pathOf n) = .ok (q ++ top', .directory))
    (reached : D.reach links (p.names ++ [n]) = .ok (q, .directory))
    : Counterparts D t t' root root' top top' q (p.into n (q ++ top)) (p'.into n (q ++ top')) where
  names := congrArg (· ++ [n]) counterparts.names
  path := (counterparts.pathOf n).1
  path' := (counterparts.pathOf n).2
  standsAt := rfl
  standsAt' := rfl
  found := found
  found' := found'
  reached := ⟨links, reached⟩
  onPath := .cons ⟨q, rfl, rfl⟩ counterparts.onPath

theorem get? (copy : D.CopyAt t root top) (copy' : D.CopyAt t' root' top') (n : Tree.Name)
    : t.get? (n :: p.place) = D.get? (n :: place)
      ∧ t'.get? (n :: p'.place) = D.get? (n :: place) := by
  rw [counterparts.standsAt, counterparts.standsAt']
  exact ⟨copy.stands (n :: place), copy'.stands (n :: place)⟩

theorem holds {entry : Tree.Entry} (stands : D.get? (n :: place) = some entry)
    : D.Holds (p.names ++ [n]) := by
  obtain ⟨links, reached⟩ := counterparts.reached
  exact ⟨p.names, n, place, links, rfl, reached, by rw [stands]; nofun⟩

/-- A directory is on the way of both walks or of neither, by induction on the ways. -/
theorem isSome_find? (q : Tree.Location)
    : (p.onPath.find? (·.1 = q ++ top)).isSome = (p'.onPath.find? (·.1 = q ++ top')).isSome := by
  have onPath := counterparts.onPath
  generalize p.onPath = visited at onPath ⊢
  generalize p'.onPath = visited' at onPath ⊢
  induction onPath with
  | nil => rfl
  | cons same _ ih =>
    obtain ⟨other, known, known'⟩ := same
    rw [List.find?_cons, List.find?_cons]
    simp only [known, known', List.append_left_inj]
    split
    next => rfl
    next => exact ih

end Counterparts

/-- Walks that open counterparts under a name tell the same below them. -/
def TellAlikeUnder (w : Walker) (D t t' : Tree) (root root' : String) (top top' : Tree.Location)
    (p : Position) (n : Tree.Name) : Prop :=
  ∀ q q' place,
    w.Opens t p n q →
    Counterparts D t t' root root' top top' place q q' →
    w.outlines t (w.within t q) = w.outlines t' (w.within t' q')

section

variable (closed : D.Closed) (copy : D.CopyAt t root top) (copy' : D.CopyAt t' root' top')
  (same : w.TellsNot D t t' root root')
  (counterparts : Counterparts D t t' root root' top top' place p p')
include closed copy copy' same counterparts

/-- The path of an entry leads to the same place of the tree in both walks, if it leads anywhere. -/
theorem stat_alike {entry : Tree.Entry} (stands : D.get? (n :: place) = some entry)
    : (∃ cause cause',
          t.stat (p.pathOf n) = .error cause ∧ t'.stat (p'.pathOf n) = .error cause')
      ∨ ∃ q found links,
          t.stat (p.pathOf n) = .ok (q ++ top, found)
          ∧ t'.stat (p'.pathOf n) = .ok (q ++ top', found)
          ∧ D.reach links (p.names ++ [n]) = .ok (q, found) := by
  obtain ⟨path, path'⟩ := counterparts.pathOf n
  rw [path, path']
  exact copy.stat_below copy' closed (by simp) (same.limits _ (counterparts.holds stands))

theorem findAlike {entry : Tree.Entry} (stands : D.get? (n :: place) = some entry)
    : FindAlike t t' (p.pathOf n) (p'.pathOf n) := by
  rcases stat_alike closed copy copy' same counterparts stands
    with failed | ⟨q, found, links, leads, leads', -⟩
  · exact .inl failed
  · exact .inr ⟨_, _, found, leads, leads'⟩

omit closed copy copy' in
theorem excludes_alike {entry : Tree.Entry} (stands : D.get? (n :: place) = some entry)
    : w.filter.excludes (p.pathOf n) = w.filter.excludes (p'.pathOf n) := by
  obtain ⟨path, path'⟩ := counterparts.pathOf n
  rw [path, path']
  exact same.patterns _ (counterparts.holds stands)

/-- Something that is met as a file is judged alike in both walks. -/
theorem outline_judgeFile_alike {entry : Tree.Entry} (stands : D.get? (n :: place) = some entry)
    (relativePath : String)
    : (w.judgeFile t true (p.pathOf n) relativePath).outline
      = (w.judgeFile t' true (p'.pathOf n) relativePath).outline :=
  outline_judgeFile (excludes_alike same counterparts stands)
    (findAlike closed copy copy' same counterparts stands) relativePath

theorem under_directory_copied (goes : w.GoesBelow p)
    (onward : w.TellAlikeUnder D t t' root root' top top' p n)
    (stands : D.get? (n :: place) = some .directory)
    : w.outlines t (w.under t p n) = w.outlines t' (w.under t' p' n) := by
  have standsHere : t.get? (n :: p.place) = some .directory :=
    (counterparts.get? copy copy' n).1.trans stands
  have standsThere : t'.get? (n :: p'.place) = some .directory :=
    (counterparts.get? copy copy' n).2.trans stands
  have entered : w.filter.isEntered (p.pathOf n) = w.filter.isEntered (p'.pathOf n) :=
    isEntered_alike (excludes_alike same counterparts stands)
  unfold under
  rw [standsHere, standsThere]
  dsimp only
  rw [← entered]
  split
  next entered =>
    refine congrArg (none :: ·) ?_
    rcases stat_alike closed copy copy' same counterparts stands
      with ⟨cause, cause', failed, failed'⟩ | ⟨q, found, links, leads, leads', reached⟩
    · exact outlines_within_of_error (congrArg (· ++ [n]) counterparts.names) failed failed'
    · obtain ⟨below, rfl⟩ := Tree.stat_join_eq counterparts.found standsHere nofun leads
      have opens : w.Opens t p n _ := .real goes standsHere entered (below ▸ leads)
      obtain rfl : q = n :: place :=
        List.append_cancel_right (below.trans (congrArg (n :: ·) counterparts.standsAt))
      have below' : (n :: place) ++ top' = n :: p'.place :=
        congrArg (n :: ·) counterparts.standsAt'.symm
      rw [← below']
      rw [← below] at opens ⊢
      exact onward _ _ _ opens (counterparts.into leads leads' reached)
  next => rfl

theorem under_link_copied (goes : w.GoesBelow p)
    (onward : w.TellAlikeUnder D t t' root root' top top' p n) {target : String}
    (stands : D.get? (n :: place) = some (.link target))
    : w.outlines t (w.under t p n) = w.outlines t' (w.under t' p' n) := by
  have standsHere : t.get? (n :: p.place) = some (.link target) :=
    (counterparts.get? copy copy' n).1.trans stands
  have standsThere : t'.get? (n :: p'.place) = some (.link target) :=
    (counterparts.get? copy copy' n).2.trans stands
  unfold under
  rw [standsHere, standsThere, counterparts.names]
  dsimp only
  split
  next =>
    exact congrArg (fun outline => [outline])
      (outline_judge_link (excludes_alike same counterparts stands)
        (findAlike closed copy copy' same counterparts stands) _)
  next =>
    rcases stat_alike closed copy copy' same counterparts stands
      with ⟨cause, cause', failed, failed'⟩ | ⟨q, found, links, leads, leads', reached⟩
    · rw [failed, failed']
      rfl
    · rw [leads, leads']
      cases found with
      | file bytes | link target =>
        exact congrArg (fun outline => [outline])
          (outline_judgeFile_alike closed copy copy' same counterparts stands _)
      | directory =>
        have known := counterparts.isSome_find? q
        dsimp only
        cases isNew : p.onPath.find? (·.1 = q ++ top) with
        | some visited =>
          rw [isNew, Option.isSome_some] at known
          obtain ⟨visited', loop⟩ := Option.isSome_iff_exists.mp known.symm
          rw [loop]
          rfl
        | none =>
          rw [isNew, Option.isSome_none] at known
          have entered : w.filter.isEntered (p.pathOf n) = w.filter.isEntered (p'.pathOf n) :=
            isEntered_alike (excludes_alike same counterparts stands)
          rw [Option.not_isSome_iff_eq_none.mp (Bool.eq_false_iff.mp known.symm), ← entered]
          dsimp only
          split
          next entered =>
            have opens : w.Opens t p n _ := .link goes standsHere leads isNew entered
            exact congrArg (none :: ·)
              (onward _ _ q opens (counterparts.into leads leads' reached))
          next => rfl

/-- Under one name both walks tell the same if they do so in the directories that they open there.
-/
theorem under_copied (goes : w.GoesBelow p)
    (onward : w.TellAlikeUnder D t t' root root' top top' p n)
    : w.outlines t (w.under t p n) = w.outlines t' (w.under t' p' n) := by
  obtain ⟨here, there⟩ := counterparts.get? copy copy' n
  rcases stands : D.get? (n :: place) with _ | _ | bytes | target
  case none => rw [under, under, here, there, stands]; rfl
  case some.directory =>
    exact under_directory_copied closed copy copy' same counterparts goes onward stands
  case some.file =>
    rw [under, under, here, there, stands, counterparts.names]
    exact congrArg (fun outline => [outline])
      (outline_judgeFile_alike closed copy copy' same counterparts stands _)
  case some.link => exact under_link_copied closed copy copy' same counterparts goes onward stands

end

/-- Below a directory both walks tell the same. The recursion is that of the first walk. -/
theorem within_copied (closed : D.Closed) (copy : D.CopyAt t root top)
    (copy' : D.CopyAt t' root' top') (same : w.TellsNot D t t' root root')
    (place : Tree.Location) (p p' : Position)
    (counterparts : Counterparts D t t' root root' top top' place p p')
    : w.outlines t (w.within t p) = w.outlines t' (w.within t' p') := by
  rw [within_eq counterparts.found, within_eq counterparts.found', counterparts.names]
  split
  next => rfl
  next shallow =>
    have goes : w.GoesBelow p := any_le_eq_false_iff.mp (Bool.eq_false_iff.mpr shallow)
    rw [counterparts.standsAt, counterparts.standsAt', children_copied copy.stands copy'.stands,
      outlines, outlines, List.map_flatMap, List.map_flatMap]
    refine List.flatMap_congr fun n _ => ?_
    exact under_copied closed copy copy' same counterparts goes fun q q' place opens counterparts =>
      within_copied closed copy copy' same place q q' counterparts
termination_by t.unvisited (p.onPath.map (·.1)) * (t.height + 1) + (t.height - p.place.length)
decreasing_by exact opens.measure_lt

-----------------------------------------------------------------------------------------
-- Listings
-----------------------------------------------------------------------------------------

/-- A root that leads to a directory adds nothing to what is met below it. -/
theorem outlines_visits (w : Walker) {t : Tree} {root : String} {top : Tree.Location}
    (found : t.stat root = .ok (top, .directory))
    : w.outlines t (w.visits t root) = none :: w.outlines t (w.within t (.atRoot root top)) := by
  have noFile : t.isFile root = false := by rw [Tree.isFile, found]
  unfold visits
  rcases Tree.linkStat_of_stat found with real | ⟨q, target, link⟩
  · rw [real]
    rfl
  · rw [link, found]
    refine congrArg (· :: w.outlines t _) ?_
    split
    next => rfl
    next =>
      simp only [judge, noFile, Bool.false_eq_true, if_false]
      rfl

/-- Where copies of a tree stand makes no difference to what is listed below their roots, if no link
leads out of the tree and neither the patterns that exclude paths nor the limits of the system tell
the paths below one root from those below the other. Both walks fail, or both list the same paths
below the root and the same sizes in the same order.
-/
theorem list_copied (settings : ScanSettings) (closed : D.Closed) (copy : D.CopyAt t root top)
    (copy' : D.CopyAt t' root' top') (same : (ofSettings settings).TellsNot D t t' root root')
    : ((ofSettings settings).list t root).toOption.map Listing.outline
      = ((ofSettings settings).list t' root').toOption.map Listing.outline := by
  rw [outline_list _ copy.found, outline_list _ copy'.found, outlines_visits _ copy.found,
    outlines_visits _ copy'.found,
    within_copied closed copy copy' same [] _ _ (Counterparts.atRoot copy copy')]

-----------------------------------------------------------------------------------------
-- A file and a link to it in two places
-----------------------------------------------------------------------------------------

/-- A file and a link to it. -/
def fileAndLink : Tree :=
  Tree.ofTop [("a.cpp", .file "xy\n".toUTF8), ("l.cpp", .link "a.cpp")]

def fileName : Tree.Name := ⟨"a.cpp", by decide⟩

def linkName : Tree.Name := ⟨"l.cpp", by decide⟩

theorem entries_fileAndLink
    : fileAndLink.entries
      = [([fileName], .file "xy\n".toUTF8), ([linkName], .link "a.cpp")] := by
  decide +kernel

/-- Nothing stands in it but these two. -/
theorem get?_fileAndLink {n : Tree.Name} {place : Tree.Location} {entry : Tree.Entry}
    (stands : fileAndLink.get? (n :: place) = some entry)
    : place = []
      ∧ (n = fileName ∧ entry = .file "xy\n".toUTF8 ∨ n = linkName ∧ entry = .link "a.cpp") := by
  have member := Tree.mem_entries_of_get? stands
  rw [entries_fileAndLink] at member
  simp only [List.mem_cons, Prod.mk.injEq, List.cons.injEq, List.not_mem_nil, or_false] at member
  rcases member with ⟨⟨rfl, rfl⟩, rfl⟩ | ⟨⟨rfl, rfl⟩, rfl⟩
  · exact ⟨rfl, .inl ⟨rfl, rfl⟩⟩
  · exact ⟨rfl, .inr ⟨rfl, rfl⟩⟩

/-- The only link is one to the file. -/
theorem get?_fileAndLink_link {n : Tree.Name} {place : Tree.Location} {target : String}
    (stands : fileAndLink.get? (n :: place) = some (.link target))
    : n = linkName ∧ target = "a.cpp" := by
  obtain ⟨-, ⟨-, file⟩ | ⟨rfl, link⟩⟩ := get?_fileAndLink stands
  · cases file
  · cases link
    exact ⟨rfl, rfl⟩

theorem get?_fileAndLink_ne_directory {n : Tree.Name} {place : Tree.Location}
    : fileAndLink.get? (n :: place) ≠ some .directory := by
  intro stands
  obtain ⟨-, ⟨-, file⟩ | ⟨-, link⟩⟩ := get?_fileAndLink stands
  · cases file
  · cases link

theorem closed_fileAndLink
    : fileAndLink.Closed := by
  refine .of_links fun n place target stands => ?_
  obtain ⟨-, rfl⟩ := get?_fileAndLink_link stands
  exact ⟨by decide, by decide⟩

/-- Names lead to the file or to the link and never back to the top. -/
theorem ne_nil_of_leads {links : Nat} {m : Tree.Name} {rest : List Tree.Step} {q : Tree.Location}
    (leads : fileAndLink.Leads .find links [] (.into m :: rest) (.entry q))
    : q ≠ [] := by
  cases leads with
  | stay _ stays => rcases stays with impossible | impossible <;> cases impossible
  | down _ _ _ below => exact absurd below get?_fileAndLink_ne_directory
  | entry => exact List.cons_ne_nil _ _
  | link _ _ _ stands _ onward =>
    obtain ⟨-, rfl⟩ := get?_fileAndLink_link stands
    have steps : Tree.steps "a.cpp".toList = [.into fileName] := by decide
    rw [Tree.startOf, if_neg (by decide), steps, List.singleton_append] at onward
    cases onward with
    | stay _ stays => rcases stays with impossible | impossible <;> cases impossible
    | down _ _ _ below => exact absurd below get?_fileAndLink_ne_directory
    | entry => exact List.cons_ne_nil _ _
    | link _ _ _ stands => exact absurd (get?_fileAndLink_link stands).1 (by decide)

theorem holds_fileAndLink {names : List Tree.Name} (holds : fileAndLink.Holds names)
    : names = [fileName] ∨ names = [linkName] := by
  obtain ⟨above, n, place, links, rfl, reached, stands⟩ := holds
  obtain ⟨entry, stands⟩ := Option.ne_none_iff_exists'.mp stands
  obtain ⟨rfl, known⟩ := get?_fileAndLink stands
  cases above with
  | nil => exact known.imp (fun file => congrArg ([·]) file.1) fun link => congrArg ([·]) link.1
  | cons m rest => exact absurd rfl (ne_nil_of_leads (Tree.leads_of_reach reached))

def genName : Tree.Name := ⟨"gen", by decide⟩

def srcName : Tree.Name := ⟨"src", by decide⟩

/-- Two copies of a file and a link to it, in one tree. -/
def twoCopies : Tree :=
  ((Tree.ofTop []).withCopy fileAndLink genName).withCopy fileAndLink srcName

theorem copyAt_gen
    : fileAndLink.CopyAt twoCopies "gen" [genName] where
  found := eq_ok_of_toOption (by decide +kernel)
  stands := (Tree.standsAt_withCopy (by decide +kernel)).withCopy (by decide) fileAndLink

theorem copyAt_src
    : fileAndLink.CopyAt twoCopies "src" [srcName] where
  found := eq_ok_of_toOption (by decide +kernel)
  stands := Tree.standsAt_withCopy (by decide +kernel)

/-- The link is excluded in both copies. -/
def withoutLinks : ScanSettings where
  excludePatterns := ["l"]

theorem tellsNot_withoutLinks
    : (ofSettings withoutLinks).TellsNot fileAndLink twoCopies twoCopies "gen" "src" where
  patterns := by
    intro names holds
    rcases holds_fileAndLink holds with rfl | rfl <;> decide +kernel
  limits := by
    intro names holds
    rcases holds_fileAndLink holds with rfl | rfl <;>
      exact iff_of_false (Tree.not_isStopped (by decide +kernel))
        (Tree.not_isStopped (by decide +kernel))

/-- One copy is listed as the other one, though a pattern excludes some of their entries. -/
theorem list_copied_without_links
    : ((ofSettings withoutLinks).list twoCopies "gen").toOption.map Listing.outline
      = some [("a.cpp", 3)] := by
  rw [list_copied withoutLinks closed_fileAndLink copyAt_gen copyAt_src tellsNot_withoutLinks]
  decide +kernel

def directoryName : Tree.Name := ⟨"d", by decide⟩

/-- A copy in a directory that is also reached through as many links as a path may lead through. -/
def behindLinks : Tree :=
  (Tree.ofTop
    (("k0", .link "d") :: (List.range 39).map fun n => (s!"k{n + 1}", .link s!"k{n}"))).withCopy
      fileAndLink directoryName

theorem copyAt_behindLinks
    : fileAndLink.CopyAt behindLinks "d" [directoryName]
      ∧ fileAndLink.CopyAt behindLinks "k39" [directoryName] := by
  have stands : fileAndLink.StandsAt behindLinks [directoryName] :=
    Tree.standsAt_withCopy (by decide +kernel)
  exact ⟨⟨eq_ok_of_toOption (by decide +kernel), stands⟩,
    ⟨eq_ok_of_toOption (by decide +kernel), stands⟩⟩

/-- A pattern can exclude a root by its name. Where it leads through too many links, a link below a
root cannot be followed.
-/
theorem not_list_copied
    : (¬ ∀ (settings : ScanSettings) (D t : Tree) (root root' : String) (top top' : Tree.Location),
          D.Closed →
          D.CopyAt t root top →
          D.CopyAt t root' top' →
          ((ofSettings settings).list t root).toOption.map Listing.outline
            = ((ofSettings settings).list t root').toOption.map Listing.outline)
      ∧ ¬ ∀ (D t : Tree) (root root' : String) (top top' : Tree.Location),
            D.Closed →
            D.CopyAt t root top →
            D.CopyAt t root' top' →
            ((ofSettings {}).list t root).toOption.map Listing.outline
              = ((ofSettings {}).list t root').toOption.map Listing.outline := by
  constructor
  · intro alike
    have excluded
        : ((ofSettings { excludePatterns := ["gen"] }).list twoCopies "gen").toOption.map
            Listing.outline
          = some [] := by
      decide +kernel
    have listed
        : ((ofSettings { excludePatterns := ["gen"] }).list twoCopies "src").toOption.map
            Listing.outline
          = some [("a.cpp", 3), ("l.cpp", 3)] := by
      decide +kernel
    rw [alike _ _ _ _ _ _ _ closed_fileAndLink copyAt_gen copyAt_src, listed] at excluded
    cases excluded
  · intro alike
    have unfollowed
        : ((ofSettings {}).list behindLinks "k39").toOption.map Listing.outline
          = some [("a.cpp", 3)] := by
      decide +kernel
    have listed
        : ((ofSettings {}).list behindLinks "d").toOption.map Listing.outline
          = some [("a.cpp", 3), ("l.cpp", 3)] := by
      decide +kernel
    obtain ⟨direct, throughLinks⟩ := copyAt_behindLinks
    rw [alike _ _ _ _ _ _ closed_fileAndLink throughLinks direct, listed] at unfollowed
    cases unfollowed

end Walker

end Casebook
