import Casebook.Proofs.Path.Below
import Casebook.Proofs.Tree.Children
import Casebook.Proofs.Tree.Descent
import Casebook.Walk

/-! Walks that follow links. One step of such a walk opens a directory under a name, or shows what
else has that name. A walk is told by the names of its steps: it shows what they lead to, each once
and in the order of the names, though a directory may be opened under many of them.
-/

namespace Casebook

def Visit.isDirectory : Visit → Bool
  | .directory _ => true
  | .file .. | .link .. | .unreadable .. | .loop .. => false

namespace Walker

/-- Where a walk is: in a directory, with the names that have led there from the root and the
directories on the way, the nearest first and this one among them.
-/
structure Position where
  onPath : List (Tree.Location × String)
  path : String
  names : List Tree.Name
  place : Tree.Location

namespace Position

def atRoot (root : String) (place : Tree.Location) : Position where
  onPath := [(place, root)]
  path := root
  names := []
  place := place

def pathOf (p : Position) (n : Tree.Name) : String :=
  Path.join p.path n.text

/-- The position in the directory at `target`, to which a name leads from another one. -/
def into (p : Position) (n : Tree.Name) (target : Tree.Location) : Position where
  onPath := (target, p.pathOf n) :: p.onPath
  path := p.pathOf n
  names := p.names ++ [n]
  place := target

end Position

def GoesBelow (w : Walker) (p : Position) : Prop :=
  ∀ most, w.maxDepth = some most → p.names.length < most

/-- A walk opens a directory under a name: a real one that is found at its path, or one that a link
leads to and that is not on the path yet.
-/
inductive Opens (w : Walker) (t : Tree) (p : Position) (n : Tree.Name) : Position → Prop
  | real (goes : w.GoesBelow p) (stands : t.get? (n :: p.place) = some .directory)
    (entered : w.filter.isEntered (p.pathOf n) = true)
    (found : t.stat (p.pathOf n) = .ok (n :: p.place, .directory))
    : w.Opens t p n (p.into n (n :: p.place))
  | link {link target} (goes : w.GoesBelow p) (stands : t.get? (n :: p.place) = some (.link link))
    (followed : t.stat (p.pathOf n) = .ok (target, .directory))
    (isNew : p.onPath.find? (·.1 = target) = none)
    (entered : w.filter.isEntered (p.pathOf n) = true)
    : w.Opens t p n (p.into n target)

/-- A walk shows what stands under a name and is no directory that it opens: a file, a link to one,
a link that it cannot follow, or a directory that cannot be found at its path.
-/
inductive Shows (w : Walker) (t : Tree) (p : Position) (n : Tree.Name) : Visit → Prop
  | file {bytes} (goes : w.GoesBelow p) (stands : t.get? (n :: p.place) = some (.file bytes))
    : w.Shows t p n (.file (p.pathOf n) (Path.ofNames (p.names ++ [n])))
  | linkedFile {link q entry} (goes : w.GoesBelow p)
    (stands : t.get? (n :: p.place) = some (.link link))
    (followed : t.stat (p.pathOf n) = .ok (q, entry)) (other : entry ≠ .directory)
    : w.Shows t p n (.file (p.pathOf n) (Path.ofNames (p.names ++ [n])))
  | unresolved {link cause} (goes : w.GoesBelow p)
    (stands : t.get? (n :: p.place) = some (.link link))
    (failed : t.stat (p.pathOf n) = .error cause)
    : w.Shows t p n (.unreadable (p.pathOf n) cause)
  | loop {link target q ancestor} (goes : w.GoesBelow p)
    (stands : t.get? (n :: p.place) = some (.link link))
    (followed : t.stat (p.pathOf n) = .ok (target, .directory))
    (known : p.onPath.find? (·.1 = target) = some (q, ancestor))
    : w.Shows t p n (.loop (p.pathOf n) ancestor)
  | shut {cause} (goes : w.GoesBelow p) (stands : t.get? (n :: p.place) = some .directory)
    (entered : w.filter.isEntered (p.pathOf n) = true)
    (deeper : w.GoesBelow (p.into n (n :: p.place)))
    (failed : t.stat (p.pathOf n) = .error cause)
    : w.Shows t p n (.unreadable (p.pathOf n) cause)

/-- Names lead a walk from one position to another through directories that it opens. -/
def Goes (w : Walker) (t : Tree) : Position → List Tree.Name → Position → Prop
  | p, [], q => q = p
  | p, n :: rest, q => ∃ next, w.Opens t p n next ∧ w.Goes t next rest q

/-- Names lead a walk from a position to what it shows under the last of them. -/
def Encounters (w : Walker) (t : Tree) : Position → List Tree.Name → Visit → Prop
  | _, [], _ => False
  | p, n :: rest, visit =>
    (rest = [] ∧ w.Shows t p n visit) ∨ ∃ next, w.Opens t p n next ∧ w.Encounters t next rest visit

variable {w : Walker} {t : Tree} {p q r : Position} {n : Tree.Name} {names : List Tree.Name}
  {visit : Visit}

-----------------------------------------------------------------------------------------
-- One step
-----------------------------------------------------------------------------------------

theorem Opens.goesBelow (opens : w.Opens t p n q)
    : w.GoesBelow p := by
  cases opens <;> assumption

theorem Shows.goesBelow (shown : w.Shows t p n visit)
    : w.GoesBelow p := by
  cases shown <;> assumption

theorem Opens.stands (opens : w.Opens t p n q)
    : ∃ entry, t.get? (n :: p.place) = some entry := by
  cases opens <;> exact ⟨_, ‹_›⟩

theorem Shows.stands (shown : w.Shows t p n visit)
    : ∃ entry, t.get? (n :: p.place) = some entry := by
  cases shown <;> exact ⟨_, ‹_›⟩

theorem Opens.found (opens : w.Opens t p n q)
    : t.stat q.path = .ok (q.place, .directory) := by
  cases opens <;> assumption

theorem Opens.texts (opens : w.Opens t p n q)
    : q.names.map Tree.Name.text = p.names.map Tree.Name.text ++ [n.text] := by
  cases opens <;> exact List.map_append

theorem Opens.unique (opens : w.Opens t p n q) (other : w.Opens t p n r)
    : q = r := by
  cases opens <;> cases other <;> simp_all

theorem Shows.unique {visit' : Visit} (shown : w.Shows t p n visit) (other : w.Shows t p n visit')
    : visit = visit' := by
  cases shown <;> cases other <;> simp_all

/-- What is opened is not shown. -/
theorem Opens.not_shows (opens : w.Opens t p n q)
    : ¬ w.Shows t p n visit := by
  intro shown
  cases opens <;> cases shown <;> simp_all [-List.find?_eq_none]

theorem Shows.isDirectory (shown : w.Shows t p n visit)
    : visit.isDirectory = false := by
  cases shown <;> rfl

theorem Encounters.goesBelow (meets : w.Encounters t p names visit)
    : w.GoesBelow p := by
  cases names with
  | nil => exact meets.elim
  | cons n rest =>
    rcases meets with ⟨-, shown⟩ | ⟨next, opens, -⟩
    · exact shown.goesBelow
    · exact opens.goesBelow

theorem Encounters.stands {rest : List Tree.Name} (meets : w.Encounters t p (n :: rest) visit)
    : ∃ entry, t.get? (n :: p.place) = some entry := by
  rcases meets with ⟨-, shown⟩ | ⟨next, opens, -⟩
  · exact shown.stands
  · exact opens.stands

-----------------------------------------------------------------------------------------
-- Many steps
-----------------------------------------------------------------------------------------

theorem goes_append_iff {front back : List Tree.Name}
    : w.Goes t p (front ++ back) q ↔ ∃ next, w.Goes t p front next ∧ w.Goes t next back q := by
  induction front generalizing p with
  | nil => simp [Goes]
  | cons n rest ih =>
    simp only [List.cons_append, Goes, ih]
    constructor
    · rintro ⟨first, opens, next, before, behind⟩
      exact ⟨next, ⟨first, opens, before⟩, behind⟩
    · rintro ⟨next, ⟨first, opens, before⟩, behind⟩
      exact ⟨first, opens, next, before, behind⟩

theorem Goes.unique (goes : w.Goes t p names q) (other : w.Goes t p names r)
    : q = r := by
  induction names generalizing p with
  | nil => exact goes.trans other.symm
  | cons n rest ih =>
    obtain ⟨next, opens, onward⟩ := goes
    obtain ⟨next', opens', onward'⟩ := other
    exact ih onward (opens.unique opens' ▸ onward')

/-- A walk that has gone some way encounters from there on what it encounters that way. -/
theorem Goes.encounters_iff {front rest : List Tree.Name} (goes : w.Goes t p front q)
    (some : rest ≠ [])
    : w.Encounters t p (front ++ rest) visit ↔ w.Encounters t q rest visit := by
  induction front generalizing p with
  | nil => rw [goes, List.nil_append]
  | cons n more ih =>
    obtain ⟨next, opens, onward⟩ := goes
    rw [List.cons_append, Encounters, ← ih onward]
    constructor
    · rintro (⟨last, -⟩ | ⟨next', opens', meets⟩)
      · exact absurd (List.append_eq_nil_iff.mp last).2 some
      · exact opens.unique opens' ▸ meets
    · exact fun meets => .inr ⟨next, opens, meets⟩

/-- What a walk encounters it shows in a directory to which the names before the last one lead. -/
theorem Encounters.exists_goes (meets : w.Encounters t p names visit)
    : ∃ front n q, names = front ++ [n] ∧ w.Goes t p front q ∧ w.Shows t q n visit := by
  induction names generalizing p with
  | nil => exact meets.elim
  | cons n rest ih =>
    rcases meets with ⟨rfl, shown⟩ | ⟨next, opens, meets⟩
    · exact ⟨[], n, p, rfl, rfl, shown⟩
    · obtain ⟨front, last, q, rfl, goes, shown⟩ := ih meets
      exact ⟨n :: front, last, q, rfl, ⟨next, opens, goes⟩, shown⟩

-----------------------------------------------------------------------------------------
-- What a walk meets in a directory
-----------------------------------------------------------------------------------------

/-- Some visits, those of directories aside, are what certain lists of names lead to, each once and
in the order of the bytes of the names.
-/
def Traces (visits : List Visit) (met : List Tree.Name → Visit → Prop) : Prop :=
  ∃ ends : List (List Tree.Name × Visit),
    visits.filter (!·.isDirectory) = ends.map Prod.snd
    ∧ (ends.Pairwise fun a b =>
        a.1.map (fun n => Text.bytes n.text) < b.1.map (fun n => Text.bytes n.text))
    ∧ ∀ names visit, (names, visit) ∈ ends ↔ met names visit

variable {met : List Tree.Name → Visit → Prop} {visits : List Visit}

theorem Traces.congr {met' : List Tree.Name → Visit → Prop} (traces : Traces visits met)
    (same : ∀ names visit, met names visit ↔ met' names visit)
    : Traces visits met' := by
  obtain ⟨ends, visits, ordered, members⟩ := traces
  exact ⟨ends, visits, ordered, fun names visit => (members names visit).trans (same names visit)⟩

theorem traces_nil (none : ∀ names visit, ¬ met names visit)
    : Traces [] met :=
  ⟨[], rfl, .nil, fun names visit => ⟨nofun, fun holds => absurd holds (none names visit)⟩⟩

/-- A directory that is met tells nothing. -/
theorem Traces.directory (traces : Traces visits met) (path : String)
    : Traces (.directory path :: visits) met := by
  obtain ⟨ends, same, rest⟩ := traces
  exact ⟨ends, (List.filter_cons_of_neg (by simp [Visit.isDirectory])).trans same, rest⟩

/-- What is met under each name of a directory makes up what is met in it. -/
theorem Traces.children {place : Tree.Location} {visits : Tree.Name → List Visit}
    (each
      : ∀ n, Traces (visits n) fun names visit => names.head? = some n ∧ met names visit)
    (first : ∀ names visit, met names visit → ∃ n ∈ t.children place, names.head? = some n)
    : Traces ((t.children place).flatMap visits) met := by
  choose ends same ordered members using each
  refine ⟨(t.children place).flatMap ends, ?_, ?_, fun names visit => ?_⟩
  · rw [List.filter_flatMap, List.map_flatMap]
    exact List.flatMap_congr fun n _ => same n
  · refine List.pairwise_flatMap.mpr ⟨fun n _ => ordered n, ?_⟩
    refine (t.pairwise_children place).imp fun {a b} earlier x ofA y ofB => ?_
    obtain ⟨rest, left⟩ := List.head?_eq_some_iff.mp ((members a x.1 x.2).mp ofA).1
    obtain ⟨more, right⟩ := List.head?_eq_some_iff.mp ((members b y.1 y.2).mp ofB).1
    rw [left, right]
    exact List.cons_lt_cons_iff.mpr (.inl earlier)
  · rw [List.mem_flatMap]
    constructor
    · rintro ⟨n, -, listed⟩
      exact ((members n names visit).mp listed).2
    · intro holds
      obtain ⟨n, child, head⟩ := first names visit holds
      exact ⟨n, child, (members n names visit).mpr ⟨head, holds⟩⟩

/-- Nothing is encountered under a name that opens nothing and shows nothing. -/
theorem traces_nothing (closed : ∀ q, ¬ w.Opens t p n q) (hidden : ∀ visit, ¬ w.Shows t p n visit)
    : Traces [] fun names visit => names.head? = some n ∧ w.Encounters t p names visit := by
  refine traces_nil fun names visit ⟨head, meets⟩ => ?_
  obtain ⟨rest, rfl⟩ := List.head?_eq_some_iff.mp head
  rcases meets with ⟨-, shown⟩ | ⟨q, opens, -⟩
  · exact hidden visit shown
  · exact closed q opens

/-- What is shown under a name is all that is encountered under it. -/
theorem Shows.traces (shown : w.Shows t p n visit)
    : Traces [visit] fun names visit =>
        names.head? = some n ∧ w.Encounters t p names visit := by
  refine ⟨[([n], visit)], by simp [shown.isDirectory], List.pairwise_singleton _ _, ?_⟩
  intro names other
  rw [List.mem_singleton, Prod.mk.injEq]
  constructor
  · rintro ⟨rfl, rfl⟩
    exact ⟨rfl, .inl ⟨rfl, shown⟩⟩
  · rintro ⟨head, meets⟩
    obtain ⟨rest, rfl⟩ := List.head?_eq_some_iff.mp head
    rcases meets with ⟨rfl, other⟩ | ⟨q, opens, -⟩
    · exact ⟨rfl, other.unique shown⟩
    · exact absurd shown opens.not_shows

/-- What is encountered in a directory that is opened is all that is encountered under its name. -/
theorem Opens.traces (opens : w.Opens t p n q) (traces : Traces visits (w.Encounters t q))
    : Traces visits fun names visit =>
        names.head? = some n ∧ w.Encounters t p names visit := by
  obtain ⟨ends, same, ordered, members⟩ := traces
  refine ⟨ends.map fun e => (n :: e.1, e.2), ?_, ?_, fun names visit => ?_⟩
  · rw [same, List.map_map]
    rfl
  · refine List.pairwise_map.mpr (ordered.imp fun earlier => ?_)
    exact List.cons_lt_cons_iff.mpr (.inr ⟨rfl, earlier⟩)
  · rw [List.mem_map]
    constructor
    · rintro ⟨⟨rest, last⟩, listed, same⟩
      obtain ⟨rfl, rfl⟩ := Prod.mk.inj same
      exact ⟨rfl, .inr ⟨q, opens, (members _ _).mp listed⟩⟩
    · rintro ⟨head, meets⟩
      obtain ⟨rest, rfl⟩ := List.head?_eq_some_iff.mp head
      rcases meets with ⟨-, shown⟩ | ⟨q', opens', meets⟩
      · exact absurd shown opens.not_shows
      · exact ⟨(rest, visit), (members _ _).mpr (opens.unique opens' ▸ meets), rfl⟩

/-- A walk that cannot find the directory which it is in meets nothing but that. -/
theorem below_of_error {onPath : List (Tree.Location × String)} {path : String}
    {names : List String} {place : Tree.Location} {cause : IoError}
    (failed : t.stat path = .error cause)
    : w.below t onPath path names place
      = if w.maxDepth.any (· ≤ names.length) then [] else [.unreadable path cause] := by
  rw [below]
  simp only [failed]

theorem any_le_eq_false_iff
    : w.maxDepth.any (· ≤ p.names.length) = false ↔ w.GoesBelow p := by
  unfold GoesBelow
  cases w.maxDepth <;> simp

/-- The measure of a walk falls at each directory that it opens: a real one is deeper, and one
behind a link is new on the path.
-/
theorem Opens.measure_lt (opens : w.Opens t p n q)
    : t.unvisited (q.onPath.map (·.1)) * (t.height + 1) + (t.height - q.place.length)
      < t.unvisited (p.onPath.map (·.1)) * (t.height + 1) + (t.height - p.place.length) := by
  cases opens with
  | real goes stands => exact Tree.measure_lt_of_deeper stands _
  | link goes stands followed isNew =>
    refine Tree.measure_lt_of_new (Tree.get?_of_stat followed) fun inList => ?_
    obtain ⟨visited, onPath, same⟩ := List.mem_map.mp inList
    have differs := List.find?_eq_none.mp isNew visited onPath
    simp [same] at differs

/-- A walk that follows links meets in a directory what it encounters there. The recursion is that
of the walk.
-/
theorem below_traces (follows : w.followLinks = true) (p : Position)
    (found : t.stat p.path = .ok (p.place, .directory))
    : Traces (w.below t p.onPath p.path (p.names.map Tree.Name.text) p.place)
        (w.Encounters t p) := by
  rw [below]
  simp only [List.length_map, found]
  split
  next deep =>
    refine traces_nil fun names visit meets => ?_
    rw [any_le_eq_false_iff.mpr meets.goesBelow] at deep
    cases deep
  next shallow =>
    have goes : w.GoesBelow p := any_le_eq_false_iff.mp (Bool.eq_false_iff.mpr shallow)
    refine Traces.children (fun n => ?_) fun names visit meets => ?_
    · have relativePath
          : String.intercalate "/" (p.names.map Tree.Name.text ++ [n.text])
            = Path.ofNames (p.names ++ [n]) := by
        rw [Path.ofNames, List.map_append, List.map_singleton]
      have within {q : Position} (opens : w.Opens t p n q)
          : Traces (w.below t q.onPath q.path (p.names.map Tree.Name.text ++ [n.text]) q.place)
              (w.Encounters t q) := by
        have traces := below_traces follows q opens.found
        rwa [opens.texts] at traces
      split
      next absent =>
        refine traces_nothing (fun q opens => ?_) fun visit shown => ?_
        · obtain ⟨entry, stands⟩ := opens.stands
          cases absent.symm.trans stands
        · obtain ⟨entry, stands⟩ := shown.stands
          cases absent.symm.trans stands
      next bytes stands =>
        rw [relativePath]
        exact (Shows.file goes stands).traces
      next stands =>
        split
        next entered =>
          cases stat : t.stat (Path.join p.path n.text) with
          | error cause =>
            have counted
                : (p.names.map Tree.Name.text ++ [n.text]).length
                  = (p.into n (n :: p.place)).names.length := by
              simp [Position.into]
            rw [below_of_error stat, counted]
            cases deep : w.maxDepth.any (· ≤ (p.into n (n :: p.place)).names.length) with
            | true =>
              refine .directory (traces_nothing (fun q opens => ?_) fun visit shown => ?_) _
              · cases opens <;> simp_all [Position.pathOf]
              · cases shown <;> simp_all [Position.pathOf, ← any_le_eq_false_iff]
            | false =>
              have deeper := any_le_eq_false_iff.mp deep
              exact .directory (Shows.shut goes stands entered deeper stat).traces _
          | ok found' =>
            obtain ⟨q, entry⟩ := found'
            obtain ⟨rfl, rfl⟩ := Tree.stat_join_eq found stands (by simp) stat
            have opens : w.Opens t p n _ := .real goes stands entered stat
            exact .directory (opens.traces (within opens)) _
        next excluded =>
          refine traces_nothing (fun q opens => ?_) fun visit shown => ?_
          · cases opens <;> simp_all [Position.pathOf]
          · cases shown <;> simp_all [Position.pathOf]
      next link stands =>
        rw [follows, Bool.not_true, if_neg Bool.false_ne_true]
        split
        next cause failed => exact (Shows.unresolved goes stands failed).traces
        next target followed =>
          split
          next q ancestor known => exact (Shows.loop goes stands followed known).traces
          next isNew =>
            split
            next entered =>
              have opens : w.Opens t p n _ := .link goes stands followed isNew entered
              exact .directory (opens.traces (within opens)) _
            next excluded =>
              refine traces_nothing (fun q opens => ?_) fun visit shown => ?_
              · cases opens <;> simp_all [Position.pathOf]
              · cases shown <;> simp_all [Position.pathOf, -List.find?_eq_none]
        next found' other followed =>
          rw [relativePath]
          have leaf : found'.2 ≠ .directory := fun same => other found'.1 (by rw [← same])
          exact (Shows.linkedFile goes stands followed leaf).traces
    · obtain ⟨n, rest, rfl⟩ := List.exists_cons_of_ne_nil (l := names) (by rintro rfl; exact meets)
      exact ⟨n, Tree.mem_children_iff.mpr meets.stands, rfl⟩
termination_by t.unvisited (p.onPath.map (·.1)) * (t.height + 1) + (t.height - p.place.length)
decreasing_by exact opens.measure_lt

end Walker

end Casebook
