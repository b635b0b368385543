import Casebook.Proofs.Evaluation
import Casebook.Proofs.Walk.Exact
import Casebook.Proofs.Walk.Followed
import Casebook.Proofs.Walk.Skipping

/-! What a walk that follows links lists. However the links of a tree lead around, such a walk comes
to its end; no path of its listing goes through a link to a directory that the path has come through
before, and each link that it cannot follow is told of once.
-/

namespace Casebook

namespace Tree

/-- In the directory that names lead to from a root, a link leads to the directory at `target`. -/
structure LinksTo (t : Tree) (root : String) (names : List Name) (n : Name) (target : Location)
    : Prop where
  link
    : ∃ place link,
        t.stat (Path.below root names) = .ok (place, .directory)
        ∧ t.get? (n :: place) = some (.link link)
  followed : t.stat (Path.below root (names ++ [n])) = .ok (target, .directory)

/-- The way that names lead from a root goes through directories, and through no link to a directory
that is already on the way above it, so through at most one link to each directory.
-/
structure NeverReturns (t : Tree) (root : String) (names : List Name) : Prop where
  directories
    : ∀ front n rest, names = front ++ n :: rest →
        ∃ place, t.stat (Path.below root front) = .ok (place, .directory)
  links
    : ∀ front n rest target, names = front ++ n :: rest → t.LinksTo root front n target →
        ∀ above entry, above <+: front → t.stat (Path.below root above) ≠ .ok (target, entry)
  once
    : ∀ front n rest front' n' rest' target,
        names = front ++ n :: rest → names = front' ++ n' :: rest' →
        t.LinksTo root front n target → t.LinksTo root front' n' target →
          front = front'

/-- What is told of a link with some path that cannot be followed, in a directory that names lead to
from a root: its target cannot be found, or is a directory that the names lead through.
-/
inductive LinkFault (t : Tree) (root : String) (names : List Name) (path : String) : String → Prop
  | unresolved {cause} (failed : t.stat path = .error cause)
    : t.LinkFault root names path
        s!"Scan error: IO error for operation on {path}: {cause.message}"
  | loop {target above} (followed : t.stat path = .ok (target, .directory))
    (isAbove : above <+: names) (same : t.stat (Path.below root above) = .ok (target, .directory))
    : t.LinkFault root names path
        s!"Scan error: File system loop found: {path} points to an ancestor {Path.below root above}"

variable {t : Tree} {root : String} {names : List Name}

theorem neverReturns_of_links
    (directories
      : ∀ front n rest, names = front ++ n :: rest →
          ∃ place, t.stat (Path.below root front) = .ok (place, .directory))
    (links
      : ∀ front n rest target, names = front ++ n :: rest → t.LinksTo root front n target →
          ∀ above entry, above <+: front → t.stat (Path.below root above) ≠ .ok (target, entry))
    : t.NeverReturns root names := by
  refine ⟨directories, links, ?_⟩
  intro front n rest front' n' rest' target whole whole' link link'
  -- The link that is met first leads to a directory that is above the other one.
  rcases List.append_eq_append_iff.mp (whole.symm.trans whole')
    with ⟨between, longer, same⟩ | ⟨between, longer, same⟩
  · cases between with
    | nil => rw [longer, List.append_nil]
    | cons m more =>
      obtain ⟨rfl, -⟩ := List.cons.inj same
      refine absurd link.followed (links _ _ _ _ whole' link' _ _ ⟨more, ?_⟩)
      rw [longer, List.append_assoc, List.singleton_append]
  · cases between with
    | nil => rw [longer, List.append_nil]
    | cons m more =>
      obtain ⟨rfl, -⟩ := List.cons.inj same
      refine absurd link'.followed (links _ _ _ _ whole link _ _ ⟨more, ?_⟩)
      rw [longer, List.append_assoc, List.singleton_append]

end Tree

theorem Path.below_concat (root : String) (names : List Tree.Name) (n : Tree.Name)
    : below root (names ++ [n]) = join (below root names) n.text := by
  simp [below]

namespace Walker

variable {w : Walker} {t : Tree} {root : String} {place : Tree.Location} {p q : Position}
  {n : Tree.Name} {names : List Tree.Name} {visit : Visit} {entry : Tree.Entry}

-----------------------------------------------------------------------------------------
-- Where a walk is
-----------------------------------------------------------------------------------------

/-- A position is at the directory that its names lead to, and holds all that they lead through. -/
structure Position.Sound (t : Tree) (root : String) (p : Position) : Prop where
  path : p.path = Path.below root p.names
  found : t.stat p.path = .ok (p.place, .directory)
  directories
    : ∀ above, above <+: p.names →
        ∃ place, t.stat (Path.below root above) = .ok (place, .directory)
  onPath
    : ∀ visited, visited ∈ p.onPath
        ↔ ∃ above, above <+: p.names
            ∧ visited.2 = Path.below root above
            ∧ t.stat (Path.below root above) = .ok (visited.1, .directory)

theorem Position.sound_atRoot (found : t.stat root = .ok (place, .directory))
    : (atRoot root place).Sound t root where
  path := rfl
  found := found
  directories above isAbove := by
    obtain rfl := List.prefix_nil.mp isAbove
    exact ⟨place, found⟩
  onPath visited := by
    simp only [atRoot, List.mem_singleton, List.prefix_nil, exists_eq_left, Path.below,
      List.foldl_nil, found, Except.ok.injEq, and_true, Prod.ext_iff]
    exact ⟨fun ⟨here, path⟩ => ⟨path, here.symm⟩, fun ⟨path, here⟩ => ⟨here.symm, path⟩⟩

theorem Position.Sound.place_eq (sound : p.Sound t root)
    (here : t.stat (Path.below root p.names) = .ok (place, entry))
    : p.place = place := by
  have found := sound.found
  rw [sound.path, here] at found
  cases found
  rfl

theorem Opens.eq_into (opens : w.Opens t p n q)
    : ∃ target, q = p.into n target := by
  cases opens <;> exact ⟨_, rfl⟩

theorem Opens.sound (opens : w.Opens t p n q) (sound : p.Sound t root)
    : q.Sound t root := by
  have found := opens.found
  obtain ⟨target, rfl⟩ := opens.eq_into
  have path : p.pathOf n = Path.below root (p.names ++ [n]) := by
    rw [Path.below_concat, ← sound.path, Position.pathOf]
  have here : t.stat (Path.below root (p.names ++ [n])) = .ok (target, .directory) := path ▸ found
  refine ⟨path, found, ?_, ?_⟩
  · intro above isAbove
    rcases List.prefix_concat_iff.mp isAbove with rfl | isAbove
    · exact ⟨target, here⟩
    · exact sound.directories above isAbove
  · intro visited
    simp only [Position.into, List.mem_cons, sound.onPath, List.prefix_concat_iff, or_and_right,
      exists_or, exists_eq_left, here, path, Except.ok.injEq, and_true, Prod.ext_iff]
    refine or_congr_left ?_
    constructor
    · rintro ⟨here, path⟩
      exact ⟨path, here.symm⟩
    · rintro ⟨path, here⟩
      exact ⟨here.symm, path⟩

theorem Goes.sound (goes : w.Goes t p names q) (sound : p.Sound t root)
    : q.Sound t root := by
  induction names generalizing p with
  | nil => exact goes ▸ sound
  | cons n rest ih =>
    obtain ⟨next, opens, onward⟩ := goes
    exact ih onward (opens.sound sound)

theorem Goes.names_eq (goes : w.Goes t p names q)
    : q.names = p.names ++ names := by
  induction names generalizing p with
  | nil => rw [goes, List.append_nil]
  | cons n rest ih =>
    obtain ⟨next, opens, onward⟩ := goes
    obtain ⟨target, rfl⟩ := opens.eq_into
    rw [ih onward, Position.into, List.append_assoc, List.singleton_append]

/-- What is at the directory that names lead to. -/
theorem Goes.here (goes : w.Goes t (.atRoot root place) names q)
    (found : t.stat root = .ok (place, .directory))
    : q.Sound t root ∧ q.names = names ∧ q.path = Path.below root names := by
  have sound := goes.sound (Position.sound_atRoot found)
  have same := goes.names_eq
  rw [Position.atRoot, List.nil_append] at same
  exact ⟨sound, same, same ▸ sound.path⟩

-----------------------------------------------------------------------------------------
-- Links on the way and at its end
-----------------------------------------------------------------------------------------

/-- A link that a walk goes through leads to no directory above. -/
theorem Opens.isNew {target : Tree.Location} (opens : w.Opens t p n q) (sound : p.Sound t root)
    (link : t.LinksTo root p.names n target) {above : List Tree.Name} (isAbove : above <+: p.names)
    (entry : Tree.Entry)
    : t.stat (Path.below root above) ≠ .ok (target, entry) := by
  intro same
  obtain ⟨⟨place, link, here, stands⟩, followed⟩ := link
  obtain rfl := sound.place_eq here
  rw [Path.below_concat, ← sound.path] at followed
  obtain ⟨place', directory⟩ := sound.directories above isAbove
  cases same.symm.trans directory
  cases opens with
  | real _ real => cases stands.symm.trans real
  | @link _ target' _ _ followed' isNew =>
    obtain rfl : target' = target := by
      simpa using followed'.symm.trans followed
    have visited : (target', Path.below root above) ∈ p.onPath :=
      (sound.onPath _).mpr ⟨above, isAbove, rfl, directory⟩
    simpa using List.find?_eq_none.mp isNew _ visited

theorem Encounters.neverReturns {path relativePath : String}
    (meets : w.Encounters t (.atRoot root place) names (.file path relativePath))
    (found : t.stat root = .ok (place, .directory))
    : t.NeverReturns root names := by
  obtain ⟨front, last, q, rfl, goes, shown⟩ := meets.exists_goes
  obtain ⟨sound, same, -⟩ := goes.here found
  have prefix_front {above : List Tree.Name} {n : Tree.Name} {rest : List Tree.Name}
      (whole : front ++ [last] = above ++ n :: rest)
      : (above = front ∧ n = last ∧ rest = []) ∨ ∃ more, front = above ++ n :: more := by
    rcases List.eq_nil_or_concat rest with rfl | ⟨more, m, rfl⟩
    · obtain ⟨rfl, ends⟩ := List.append_inj' whole rfl
      exact .inl ⟨rfl, (List.cons.inj ends).1.symm, rfl⟩
    · rw [List.concat_eq_append, ← List.cons_append, ← List.append_assoc] at whole
      exact .inr ⟨more, (List.append_inj' whole rfl).1⟩
  refine Tree.neverReturns_of_links ?_ ?_
  · intro above n rest whole
    refine sound.directories above (same ▸ ?_)
    rcases prefix_front whole with ⟨rfl, -⟩ | ⟨more, rfl⟩
    · exact List.prefix_rfl
    · exact List.prefix_append _ _
  · intro above n rest target whole link higher entry isHigher
    rcases prefix_front whole with ⟨rfl, rfl, -⟩ | ⟨more, rfl⟩
    · -- The walk ends at a file here, so no link leads to a directory.
      exfalso
      subst same
      obtain ⟨⟨place', link, here, stands⟩, followed⟩ := link
      obtain rfl := sound.place_eq here
      rw [Path.below_concat, ← sound.path] at followed
      cases shown with
      | file _ real => cases stands.symm.trans real
      | linkedFile _ _ followed' other =>
        exact other (Prod.mk.inj (Except.ok.inj (followed'.symm.trans followed))).2
    · obtain ⟨before, goes, next, opens, -⟩ := goes_append_iff.mp goes
      obtain ⟨sound, rfl, -⟩ := goes.here found
      exact opens.isNew sound link isHigher entry

/-- A link that cannot be followed is shown, and what is told of it is one of its faults. -/
theorem Goes.shows_of_linkFault {link said : String}
    (goes : w.Goes t (.atRoot root place) names q)
    (found : t.stat root = .ok (place, .directory)) (below : w.GoesBelow q)
    (stands : t.get? (n :: q.place) = some (.link link))
    (fault : t.LinkFault root names (q.pathOf n) said)
    : ∃ visit told,
        w.Shows t q n visit
        ∧ (∀ isDirectory, (w.judge t isDirectory visit).source? = none
            ∧ (w.judge t isDirectory visit).complaint? = some told)
        ∧ t.LinkFault root names (q.pathOf n) told := by
  obtain ⟨sound, rfl, -⟩ := goes.here found
  cases fault with
  | unresolved failed =>
    exact ⟨_, _, .unresolved below stands failed, fun _ => ⟨rfl, rfl⟩, .unresolved failed⟩
  | @loop target above followed isAbove same =>
    cases known : q.onPath.find? (·.1 = target) with
    | none =>
      have visited : (target, Path.below root above) ∈ q.onPath :=
        (sound.onPath _).mpr ⟨above, isAbove, rfl, same⟩
      simpa using List.find?_eq_none.mp known _ visited
    | some visited =>
      obtain ⟨_, ancestor⟩ := visited
      obtain rfl : _ = target := by simpa using List.find?_some known
      obtain ⟨nearest, isNearest, rfl, here⟩ :=
        (sound.onPath _).mp (List.mem_of_find?_eq_some known)
      exact ⟨_, _, .loop below stands followed known, fun _ => ⟨rfl, rfl⟩,
        .loop followed isNearest here⟩

/-- Nothing is encountered below a link that is shown, and nothing else at it. -/
theorem Goes.encounters_prefix_iff (goes : w.Goes t p names q) (shown : w.Shows t q n visit)
    {met : List Tree.Name} {visit' : Visit}
    : w.Encounters t p met visit' ∧ names ++ [n] <+: met ↔ met = names ++ [n] ∧ visit' = visit := by
  constructor
  · rintro ⟨meets, rest, rfl⟩
    rw [List.append_assoc, List.singleton_append,
      goes.encounters_iff (List.cons_ne_nil _ _)] at meets
    rcases meets with ⟨rfl, other⟩ | ⟨next, opens, -⟩
    · exact ⟨List.append_nil _, other.unique shown⟩
    · exact absurd shown opens.not_shows
  · rintro ⟨rfl, rfl⟩
    exact ⟨(goes.encounters_iff (List.cons_ne_nil _ _)).mpr (.inl ⟨rfl, shown⟩), List.prefix_rfl⟩

-----------------------------------------------------------------------------------------
-- The listing
-----------------------------------------------------------------------------------------

/-- What a walk finds under names from its root: what it encounters below a directory, or the root
itself if that is none.
-/
inductive Finds (w : Walker) (t : Tree) (root : String) : List Tree.Name → Visit → Prop
  | below {place : Tree.Location} {names : List Tree.Name} {visit : Visit}
    (found : t.stat root = .ok (place, .directory))
    (meets : w.Encounters t (.atRoot root place) names visit)
    : w.Finds t root names visit
  | root {place : Tree.Location} {entry : Tree.Entry} (found : t.stat root = .ok (place, entry))
    (other : entry ≠ .directory)
    : w.Finds t root [] (.file root ((Path.fileName? root).getD root))

/-- Files and complaints, each with names that lead there from the root of a walk, are all that the
walk lists. The files are in the order of their paths and no path returns to a directory; each link
that cannot be followed has one complaint and nothing below it.
-/
structure Accounts (w : Walker) (t : Tree) (root : String) (files : List (List Tree.Name × Source))
    (skipped : List (List Tree.Name × String))
    : Prop where
  files_iff
    : ∀ names file,
        (names, file) ∈ files
          ↔ ∃ visit,
              w.Finds t root names visit
              ∧ (w.judge t (t.isDirectory root) visit).source? = some file
  skipped_iff
    : ∀ names said,
        (names, said) ∈ skipped
          ↔ ∃ visit,
              w.Finds t root names visit
              ∧ (w.judge t (t.isDirectory root) visit).complaint? = some said
  ordered : (files.map Prod.snd).Pairwise Earlier
  returns : ∀ e ∈ files, e.2.path = Path.below root e.1 ∧ t.NeverReturns root e.1
  faults
    : ∀ {place names q n link said},
        t.stat root = .ok (place, .directory) → w.Goes t (.atRoot root place) names q →
        w.GoesBelow q → t.get? (n :: q.place) = some (.link link) →
        t.LinkFault root names (q.pathOf n) said →
          (∃ told,
            t.LinkFault root names (q.pathOf n) told
            ∧ skipped.filter (fun e => names ++ [n] <+: e.1) = [(names ++ [n], told)])
          ∧ files.filter (fun e => names ++ [n] <+: e.1) = []

theorem visits_traces (follows : w.followLinks = true) (found : t.stat root = .ok (place, entry))
    : Traces (w.visits t root) (w.Finds t root) := by
  by_cases directory : entry = .directory
  · subst directory
    have visits
        : w.visits t root = .directory root :: w.below t [(place, root)] root [] place := by
      rcases Tree.linkStat_of_stat found with here | ⟨q, target, link⟩
      · rw [visits, here]
      · simp only [visits, link, found, follows, if_true]
    rw [visits]
    refine ((below_traces follows (.atRoot root place) found).directory root).congr ?_
    refine fun names visit => ⟨.below found, fun finds => ?_⟩
    cases finds with
    | below found' meets =>
      cases found.symm.trans found'
      exact meets
    | root found' other =>
      cases found.symm.trans found'
      exact absurd rfl other
  · have visits : w.visits t root = [.file root ((Path.fileName? root).getD root)] := by
      rcases Tree.linkStat_of_stat found with here | ⟨q, target, link⟩
      · cases entry <;> simp_all [visits]
      · cases entry <;> simp_all [visits]
    rw [visits]
    refine ⟨[([], _)], rfl, List.pairwise_singleton _ _, fun names visit => ?_⟩
    rw [List.mem_singleton, Prod.mk.injEq]
    constructor
    · rintro ⟨rfl, rfl⟩
      exact .root found directory
    · intro finds
      cases finds with
      | below found' => cases found.symm.trans found'; exact absurd rfl directory
      | root => exact ⟨rfl, rfl⟩

/-- What a walk that skips what it cannot read makes of its visits. -/
theorem list_of_skips (skips : w.skipUnreadable = true) (found : t.stat root = .ok (place, entry))
    : w.list t root
      = .ok
          {
            files := (w.visits t root).filterMap fun visit =>
              (w.judge t (t.isDirectory root) visit).source?
            skipped := (w.visits t root).filterMap fun visit =>
              (w.judge t (t.isDirectory root) visit).complaint?
          } := by
  have known : decide (entry = .directory) = t.isDirectory root := by
    cases entry <;> simp [Tree.isDirectory, found]
  simp only [list, found, skips, known, if_true, List.filterMap_map]
  rfl

/-- What is told of visits, though of no directory, can be told with the names of the visits. -/
theorem Traces.exists_tagged {visits : List Visit} {met : List Tree.Name → Visit → Prop}
    (traces : Traces visits met) {α : Type} (told : Visit → Option α)
    (silent : ∀ path, told (.directory path) = none)
    : ∃ tagged : List (List Tree.Name × α),
        visits.filterMap told = tagged.map Prod.snd
        ∧ (tagged.Pairwise fun a b =>
            a.1.map (fun n => Text.bytes n.text) < b.1.map (fun n => Text.bytes n.text))
        ∧ ∀ names a,
            (names, a) ∈ tagged ↔ ∃ visit, met names visit ∧ told visit = some a := by
  obtain ⟨ends, same, ordered, members⟩ := traces
  refine ⟨ends.filterMap fun e => (told e.2).map (Prod.mk e.1), ?_, ?_, fun names a => ?_⟩
  · have unfiltered : visits.filterMap told = (visits.filter (!·.isDirectory)).filterMap told := by
      rw [List.filterMap_filter]
      refine List.filterMap_congr fun visit _ => ?_
      cases visit <;> simp [Visit.isDirectory, silent]
    rw [unfiltered, same, List.filterMap_map, List.map_filterMap]
    simp [Function.comp_def]
  · refine List.Pairwise.filterMap _ ?_ ordered
    intro a b earlier x ofA y ofB
    obtain ⟨_, -, rfl⟩ := Option.map_eq_some_iff.mp ofA
    obtain ⟨_, -, rfl⟩ := Option.map_eq_some_iff.mp ofB
    exact earlier
  · simp only [List.mem_filterMap, Option.map_eq_some_iff, Prod.mk.injEq, Prod.exists, ← members]
    constructor
    · rintro ⟨_, visit, listed, _, same, rfl, rfl⟩
      exact ⟨visit, listed, same⟩
    · rintro ⟨visit, listed, same⟩
      exact ⟨names, visit, listed, a, same, rfl, rfl⟩

/-- Of things that are told with names in order, those are one alone of which only one is known. -/
theorem filter_eq_singleton {α : Type} {tagged : List (List Tree.Name × α)}
    {e : List Tree.Name × α} {kept : List Tree.Name × α → Bool}
    (ordered
      : tagged.Pairwise fun a b =>
          a.1.map (fun n => Text.bytes n.text) < b.1.map (fun n => Text.bytes n.text))
    (only : ∀ other, other ∈ tagged ∧ kept other = true ↔ other = e)
    : tagged.filter kept = [e] := by
  have nodup : (tagged.filter kept).Nodup := by
    refine List.Nodup.filter _ (ordered.imp fun {a b} earlier same => ?_)
    exact List.lt_irrefl _ (same ▸ earlier)
  refine List.perm_singleton.mp ((List.perm_ext_iff_of_nodup nodup (List.nodup_singleton e)).mpr ?_)
  intro other
  rw [List.mem_filter, List.mem_singleton]
  exact only other

theorem source_of_judgeFile {isDirectory : Bool} {path relativePath : String} {file : Source}
    (source : w.judgeFile t isDirectory path relativePath = .source file)
    : file.path = path ∧ file.relativePath = relativePath := by
  unfold judgeFile at source
  split at source
  next => cases source
  next =>
    split at source
    next => cases source; exact ⟨rfl, rfl⟩
    next => cases source; exact ⟨rfl, rfl⟩
    next => cases source

/-- A source is found at the path that its names make, which returns to no directory. -/
theorem Finds.source {isDirectory : Bool} {file : Source} (finds : w.Finds t root names visit)
    (source : (w.judge t isDirectory visit).source? = some file)
    : file.path = Path.below root names
      ∧ (names ≠ [] → file.relativePath = Path.ofNames names)
      ∧ t.NeverReturns root names := by
  rw [Verdict.source?_eq_some_iff] at source
  cases finds with
  | below found meets =>
    obtain ⟨front, n, q, rfl, goes, shown⟩ := meets.exists_goes
    obtain ⟨-, rfl, here⟩ := goes.here found
    have pathOf : q.pathOf n = Path.below root (q.names ++ [n]) := by
      rw [Path.below_concat, ← here, Position.pathOf]
    cases shown with
    | file | linkedFile =>
      obtain ⟨path, relativePath⟩ := source_of_judgeFile source
      exact ⟨path.trans pathOf, fun _ => relativePath, meets.neverReturns found⟩
    | unresolved | loop | shut => cases source
  | root =>
    refine ⟨(source_of_judgeFile source).1, absurd rfl, ?_⟩
    refine Tree.neverReturns_of_links (fun front n rest whole => ?_) fun front n rest _ whole => ?_
    · simp at whole
    · simp at whole

/-- The root is found alone. -/
theorem Finds.eq_nil {visit' : Visit} (finds : w.Finds t root [] visit)
    (other : w.Finds t root names visit')
    : names = [] := by
  cases finds with
  | below _ meets => exact meets.elim
  | root found isOther =>
    cases other with
    | below found' => cases found.symm.trans found'; exact absurd rfl isOther
    | root => rfl

/-- A walk that follows links and skips what it cannot read accounts for all that it lists. -/
theorem exists_accounts (follows : w.followLinks = true) (skips : w.skipUnreadable = true)
    (found : t.stat root = .ok (place, entry))
    : ∃ files skipped,
        w.list t root
          = .ok { files := files.map Prod.snd, skipped := skipped.map Prod.snd }
        ∧ w.Accounts t root files skipped := by
  have traces := visits_traces follows found
  obtain ⟨files, sameFiles, orderedFiles, isFile⟩ :=
    traces.exists_tagged (fun visit => (w.judge t (t.isDirectory root) visit).source?) fun _ => rfl
  obtain ⟨skipped, sameSkipped, orderedSkipped, isSkipped⟩ :=
    traces.exists_tagged (fun visit => (w.judge t (t.isDirectory root) visit).complaint?)
      fun _ => rfl
  have finds (e) (listed : e ∈ files) := (isFile e.1 e.2).mp listed
  refine ⟨files, skipped, ?_, isFile, isSkipped, ?_, ?_, ?_⟩
  · rw [list_of_skips skips found, sameFiles, sameSkipped]
  · refine List.pairwise_map.mpr ((List.Pairwise.and_mem.mp orderedFiles).imp ?_)
    rintro a b ⟨ofA, ofB, earlier⟩
    obtain ⟨visit, found, source⟩ := finds a ofA
    obtain ⟨visit', found', source'⟩ := finds b ofB
    have later : b.1 ≠ [] := by
      intro last
      rw [last] at earlier
      exact List.not_lt_nil _ earlier
    have below : a.1 ≠ [] := fun first => later ((first ▸ found).eq_nil found')
    rw [Earlier, (found.source source).2.1 below, (found'.source source').2.1 later,
      Path.componentBytes_ofNames, Path.componentBytes_ofNames]
    exact earlier
  · intro e listed
    obtain ⟨visit, found, source⟩ := finds e listed
    exact ⟨(found.source source).1, (found.source source).2.2⟩
  · intro place names q n link said here goes below stands fault
    obtain ⟨visit, told, shown, judged, isFault⟩ :=
      goes.shows_of_linkFault here below stands fault
    have only {met : List Tree.Name} {visit' : Visit}
        : w.Finds t root met visit' ∧ names ++ [n] <+: met
          ↔ met = names ++ [n] ∧ visit' = visit := by
      rw [← goes.encounters_prefix_iff shown]
      refine and_congr_left fun within => ⟨fun finds => ?_, .below here⟩
      cases finds with
      | below here' meets => cases here.symm.trans here'; exact meets
      | root => simp at within
    refine ⟨⟨told, isFault, filter_eq_singleton orderedSkipped fun other => ?_⟩, ?_⟩
    · obtain ⟨met, told'⟩ := other
      rw [isSkipped, decide_eq_true_eq, Prod.mk.injEq]
      constructor
      · rintro ⟨⟨visit', finds, same⟩, within⟩
        obtain ⟨rfl, rfl⟩ := only.mp ⟨finds, within⟩
        exact ⟨rfl, Option.some.inj (same.symm.trans (judged _).2)⟩
      · rintro ⟨rfl, rfl⟩
        obtain ⟨finds, within⟩ := only.mpr ⟨rfl, rfl⟩
        exact ⟨⟨visit, finds, (judged _).2⟩, within⟩
    · refine List.filter_eq_nil_iff.mpr fun e listed within => ?_
      obtain ⟨visit', found', source⟩ := finds e listed
      obtain ⟨-, rfl⟩ := only.mp ⟨found', of_decide_eq_true within⟩
      rw [(judged _).1] at source
      cases source

/-- A walk that follows links and skips what it cannot read ends with a listing wherever its root
can be found, however the links of the tree lead around. The listing accounts for all files and for
all complaints: its files are in the order of their paths, on no path of it a link leads back to a
directory that the path has come through, and a link that leads back there or nowhere has one
complaint and nothing below it. The same walk fails at what it cannot read exactly if this one has
skipped something.
-/
theorem list_followed (settings : ScanSettings) (follows : settings.followLinks = true)
    (skips : settings.skipUnreadable = true) (found : t.stat root = .ok (place, entry))
    : ∃ files skipped,
        (ofSettings settings).list t root
          = .ok { files := files.map Prod.snd, skipped := skipped.map Prod.snd }
        ∧ (ofSettings settings).Accounts t root files skipped
        ∧ ((∃ failure,
              (ofSettings { settings with skipUnreadable := false }).list t root = .error failure)
            ↔ skipped ≠ []) := by
  obtain ⟨files, skipped, listed, accounts⟩ :=
    exists_accounts (w := ofSettings settings) follows skips found
  have strict (listing : Listing)
      : (ofSettings { settings with skipUnreadable := false }).list t root = .ok listing
        ↔ (ofSettings settings).list t root = .ok listing ∧ listing.skipped = [] :=
    list_eq_ok_iff_of_skips ⟨rfl, rfl, rfl⟩ skips rfl
  refine ⟨files, skipped, listed, accounts, ?_⟩
  cases ended : (ofSettings { settings with skipUnreadable := false }).list t root with
  | ok listing =>
    obtain ⟨listed', unskipped⟩ := (strict listing).mp ended
    cases listed.symm.trans listed'
    simpa using unskipped
  | error failure =>
    simp only [Except.error.injEq, exists_eq', true_iff]
    rintro rfl
    have succeeds := (strict _).mpr ⟨listed, rfl⟩
    cases ended.symm.trans succeeds

/-- A tree with a link to a directory, in which a link leads back to the top, and a link that leads
nowhere.
-/
def linkedAround : Tree :=
  ((Tree.ofTop [("gone", .link "nowhere"), ("b", .link "a"), ("a", .directory)]).withEntry
    "a" "up" (.link "..")).withEntry
    "a" "x.cpp" (.file "int x;\n".toUTF8)

/-- The settings of a walk that follows links and skips what it cannot read. -/
def followingLinks : ScanSettings where
  followLinks := true
  skipUnreadable := true

/-- A walk that follows the links comes to the file on two paths, and back to the top on none. -/
theorem list_followed_linked_around
    : linkedAround.stat "." = .ok ([], .directory)
      ∧ ∃ files skipped,
          (ofSettings followingLinks).list linkedAround "."
            = .ok { files := files.map Prod.snd, skipped := skipped.map Prod.snd }
          ∧ (ofSettings followingLinks).Accounts linkedAround "." files skipped
          ∧ files.map (fun e => e.2.relativePath) = ["a/x.cpp", "b/x.cpp"]
          ∧ skipped.map Prod.snd
            = ["Scan error: File system loop found: ./a/up points to an ancestor .",
              "Scan error: File system loop found: ./b/up points to an ancestor .",
              "Scan error: IO error for operation on ./gone: "
                ++ "No such file or directory (os error 2)"]
          ∧ ∃ failure,
              (ofSettings { followingLinks with skipUnreadable := false }).list linkedAround "."
                = .error failure := by
  have found : linkedAround.stat "." = .ok ([], .directory) :=
    eq_ok_of_toOption (by decide +kernel)
  obtain ⟨files, skipped, listed, accounts, fails⟩ := list_followed followingLinks rfl rfl found
  obtain ⟨listing, listed', known⟩
      : ∃ listing,
          (ofSettings followingLinks).list linkedAround "." = .ok listing
          ∧ (listing.files.map Source.relativePath, listing.skipped)
            = (["a/x.cpp", "b/x.cpp"],
              ["Scan error: File system loop found: ./a/up points to an ancestor .",
                "Scan error: File system loop found: ./b/up points to an ancestor .",
                "Scan error: IO error for operation on ./gone: "
                  ++ "No such file or directory (os error 2)"]) :=
    exists_ok_of_toOption (by decide +kernel)
  cases listed.symm.trans listed'
  obtain ⟨sources, complaints⟩ := Prod.mk.inj known
  refine ⟨found, files, skipped, listed, accounts, ?_, complaints, fails.mpr ?_⟩
  · rwa [List.map_map] at sources
  · rintro rfl
    cases complaints

end Walker

end Casebook
