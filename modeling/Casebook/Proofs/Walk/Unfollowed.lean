import Casebook.Proofs.Path.Below
import Casebook.Proofs.Tree.Children
import Casebook.Proofs.Tree.Descent
import Casebook.Walk

/-! Walks that follow no links. Such a walk gets to what stands below its root in real directories
that it may enter, to each once, and in the order of the names on the way.
-/

namespace Casebook

/-- What stands below a directory can be found there: no path to it is too long, nor is a name. -/
def Tree.FitsBelow (t : Tree) (path : String) (place : Tree.Location) : Prop :=
  ∀ names entry, t.get? (names.reverse ++ place) = some entry →
    (Path.below path names).utf8ByteSize ≤ Tree.maxPathBytes
    ∧ ∀ n ∈ names, n.text.utf8ByteSize ≤ Tree.maxNameBytes

/-- What stands below the top can be found there if this holds of all listed locations. -/
theorem Tree.fitsBelow_top {t : Tree} {path : String}
    (fit
      : ∀ place ∈ [] :: t.entries.map (·.1),
          (Path.below path place.reverse).utf8ByteSize ≤ Tree.maxPathBytes
          ∧ ∀ n ∈ place, n.text.utf8ByteSize ≤ Tree.maxNameBytes)
    : t.FitsBelow path [] := by
  intro names entry stands
  rw [List.append_nil] at stands
  obtain ⟨short, shortNames⟩ := fit _ (Tree.mem_of_get? stands)
  rw [List.reverse_reverse] at short
  exact ⟨short, fun n member => shortNames n (List.mem_reverse.mpr member)⟩

theorem Tree.FitsBelow.into {t : Tree} {path : String} {place : Tree.Location}
    (fits : t.FitsBelow path place) (n : Tree.Name)
    : t.FitsBelow (Path.join path n.text) (n :: place) := by
  intro names entry stands
  have same : names.reverse ++ n :: place = (n :: names).reverse ++ place := by
    rw [List.reverse_cons, List.append_assoc, List.singleton_append]
  obtain ⟨short, names⟩ := fits (n :: names) entry (same ▸ stands)
  exact ⟨short, fun m member => names m (List.mem_cons_of_mem n member)⟩

/-- What stands right below a directory is found there, unless it is a link. -/
theorem Tree.FitsBelow.stat {t : Tree} {path : String} {place : Tree.Location} {n : Tree.Name}
    {entry : Tree.Entry} (fits : t.FitsBelow path place)
    (found : t.stat path = .ok (place, .directory)) (stands : t.get? (n :: place) = some entry)
    (noLink : ∀ target, entry ≠ .link target)
    : t.stat (Path.join path n.text) = .ok (n :: place, entry) := by
  obtain ⟨short, names⟩ := fits [n] entry stands
  exact Tree.stat_join found stands noLink (names n List.mem_cons_self) short

namespace Walker

/-- A walk in a directory gets to what some names lead to from there, if it has gone down some steps
already: it may go that deep, it enters all real directories on the way, and something stands there
that it passes by or enters as well.
-/
structure Meets (w : Walker) (t : Tree) (path : String) (place : Tree.Location) (depth : Nat)
    (names : List Tree.Name)
    : Prop where
  nonempty : names ≠ []
  depth : ∀ most, w.maxDepth = some most → depth + names.length ≤ most
  directories
    : ∀ front, front ≠ [] → front <+: names → front ≠ names →
        t.get? (front.reverse ++ place) = some .directory
        ∧ w.filter.isEntered (Path.below path front) = true
  stands
    : ∃ entry,
        t.get? (names.reverse ++ place) = some entry
        ∧ (entry = .directory → w.filter.isEntered (Path.below path names) = true)

variable {w : Walker} {t : Tree} {path : String} {place : Tree.Location} {depth : Nat}

/-- A walk gets to what names lead to through the first of them. -/
theorem meets_cons_iff {n : Tree.Name} {rest : List Tree.Name}
    : w.Meets t path place depth (n :: rest)
      ↔ (∀ most, w.maxDepth = some most → depth < most)
        ∧ ∃ entry,
            t.get? (n :: place) = some entry
            ∧ (entry = .directory → w.filter.isEntered (Path.join path n.text) = true)
            ∧ (rest = []
              ∨ entry = .directory
                ∧ w.Meets t (Path.join path n.text) (n :: place) (depth + 1) rest) := by
  have behind (names : List Tree.Name)
      : (n :: names).reverse ++ place = names.reverse ++ n :: place := by
    rw [List.reverse_cons, List.append_assoc, List.singleton_append]
  constructor
  · intro meets
    refine ⟨fun most limit => ?_, ?_⟩
    · have fits := meets.depth most limit
      rw [List.length_cons] at fits
      omega
    · by_cases last : rest = []
      · subst last
        obtain ⟨entry, stands, enters⟩ := meets.stands
        exact ⟨entry, stands, enters, .inl rfl⟩
      · obtain ⟨directory, enters⟩ :=
          meets.directories [n] (List.cons_ne_nil _ _) (List.prefix_append [n] rest)
            (fun same => last (List.cons.inj same).2.symm)
        refine ⟨.directory, directory, fun _ => enters, .inr ⟨rfl, last, ?_, ?_, ?_⟩⟩
        · intro most limit
          have fits := meets.depth most limit
          rw [List.length_cons] at fits
          omega
        · intro front some isPrefix other
          obtain ⟨directory, enters⟩ :=
            meets.directories (n :: front) (List.cons_ne_nil _ _)
              (List.cons_prefix_cons.mpr ⟨rfl, isPrefix⟩)
              (fun same => other (List.cons.inj same).2)
          exact ⟨behind front ▸ directory, enters⟩
        · obtain ⟨entry, stands, enters⟩ := meets.stands
          exact ⟨entry, behind rest ▸ stands, enters⟩
  · rintro ⟨deeper, entry, stands, enters, onward⟩
    refine ⟨List.cons_ne_nil _ _, fun most limit => ?_, fun front some isPrefix other => ?_, ?_⟩
    · rcases onward with rfl | ⟨-, meets⟩
      · exact deeper most limit
      · have fits := meets.depth most limit
        rw [List.length_cons]
        omega
    · obtain ⟨first, more, rfl⟩ := List.exists_cons_of_ne_nil some
      obtain ⟨rfl, within⟩ := List.cons_prefix_cons.mp isPrefix
      rcases onward with rfl | ⟨rfl, meets⟩
      · exact absurd (congrArg _ (List.prefix_nil.mp within)) other
      · by_cases last : more = []
        · subst last
          exact ⟨stands, enters rfl⟩
        · obtain ⟨directory, enters⟩ :=
            meets.directories more last within (fun same => other (congrArg _ same))
          exact ⟨(behind more).symm ▸ directory, enters⟩
    · rcases onward with rfl | ⟨-, meets⟩
      · exact ⟨entry, stands, enters⟩
      · obtain ⟨last, stands, enters⟩ := meets.stands
        exact ⟨last, (behind rest).symm ▸ stands, enters⟩

/-- What a walk that follows no links meets where some names lead to, from a directory with a path
to which other names have led before.
-/
def visitAt (t : Tree) (path : String) (before : List String) (place : Tree.Location)
    (names : List Tree.Name) : Visit :=
  let relativePath := String.intercalate "/" (before ++ names.map Tree.Name.text)
  match t.get? (names.reverse ++ place) with
  | some (.file _) => .file (Path.below path names) relativePath
  | some (.link _) => .link (Path.below path names) relativePath
  | some .directory | none => .directory (Path.below path names)

/-- What names lead to is the same whether the first of them counts as one that led before. -/
theorem visitAt_cons (t : Tree) (path : String) (before : List String) (place : Tree.Location)
    (n : Tree.Name) (rest : List Tree.Name)
    : visitAt t path before place (n :: rest)
      = visitAt t (Path.join path n.text) (before ++ [n.text]) (n :: place) rest := by
  rw [visitAt, visitAt, List.reverse_cons, List.append_assoc, List.singleton_append, List.map_cons,
    List.append_assoc, List.singleton_append]
  rfl

/-- Some visits in a directory are of what certain lists of names lead to from there, of all of them
and each once, in the order of the bytes of the names.
-/
def AreVisits (t : Tree) (path : String) (before : List String) (place : Tree.Location)
    (met : List Tree.Name → Prop) (visits : List Visit) : Prop :=
  ∃ ends : List (List Tree.Name),
    visits = ends.map (visitAt t path before place)
    ∧ (ends.Pairwise fun a b =>
        a.map (fun n => Text.bytes n.text) < b.map (fun n => Text.bytes n.text))
    ∧ ∀ names, names ∈ ends ↔ met names

variable {before : List String} {met : List Tree.Name → Prop}

theorem AreVisits.congr {met' : List Tree.Name → Prop} {visits : List Visit}
    (are : AreVisits t path before place met visits) (same : ∀ names, met names ↔ met' names)
    : AreVisits t path before place met' visits := by
  obtain ⟨ends, visits, ordered, members⟩ := are
  exact ⟨ends, visits, ordered, fun names => (members names).trans (same names)⟩

theorem areVisits_nil (none : ∀ names, ¬ met names)
    : AreVisits t path before place met [] :=
  ⟨[], rfl, .nil, fun names => ⟨nofun, fun holds => absurd holds (none names)⟩⟩

theorem areVisits_singleton (n : Tree.Name)
    : AreVisits t path before place (· = [n]) [visitAt t path before place [n]] :=
  ⟨[[n]], rfl, List.pairwise_singleton _ _, fun _ => List.mem_singleton⟩

/-- A directory that is entered comes before all that is met in it. -/
theorem AreVisits.enter {n : Tree.Name} {visits : List Visit}
    (are : AreVisits t (Path.join path n.text) (before ++ [n.text]) (n :: place) met visits)
    (directory : t.get? (n :: place) = some .directory) (nonempty : ¬ met [])
    : AreVisits t path before place
        (fun names => ∃ rest, names = n :: rest ∧ (rest = [] ∨ met rest))
        (.directory (Path.join path n.text) :: visits) := by
  obtain ⟨ends, rfl, ordered, members⟩ := are
  refine ⟨[n] :: ends.map (n :: ·), ?_, ?_, fun names => ?_⟩
  · have here : visitAt t path before place [n] = .directory (Path.join path n.text) := by
      rw [visitAt, List.reverse_singleton, List.singleton_append, directory]
      rfl
    rw [List.map_cons, here, List.map_map]
    refine congrArg _ (List.map_congr_left fun rest _ => ?_)
    exact (visitAt_cons t path before place n rest).symm
  · refine List.pairwise_cons.mpr ⟨fun names member => ?_, ?_⟩
    · obtain ⟨rest, listed, rfl⟩ := List.mem_map.mp member
      obtain ⟨m, more, rfl⟩ : ∃ m more, rest = m :: more := by
        refine List.exists_cons_of_ne_nil ?_
        rintro rfl
        exact nonempty ((members []).mp listed)
      exact List.cons_lt_cons_iff.mpr (.inr ⟨rfl, List.nil_lt_cons _ _⟩)
    · refine List.pairwise_map.mpr (ordered.imp fun earlier => ?_)
      exact List.cons_lt_cons_iff.mpr (.inr ⟨rfl, earlier⟩)
  · rw [List.mem_cons, List.mem_map]
    constructor
    · rintro (rfl | ⟨rest, listed, rfl⟩)
      · exact ⟨[], rfl, .inl rfl⟩
      · exact ⟨rest, rfl, .inr ((members rest).mp listed)⟩
    · rintro ⟨rest, rfl, rfl | holds⟩
      · exact .inl rfl
      · exact .inr ⟨rest, (members rest).mpr holds, rfl⟩

/-- What is met under each name of a directory makes up what is met in it. -/
theorem AreVisits.children {visits : Tree.Name → List Visit}
    (each
      : ∀ n,
          AreVisits t path before place (fun names => names.head? = some n ∧ met names) (visits n))
    (first : ∀ names, met names → ∃ n ∈ t.children place, names.head? = some n)
    : AreVisits t path before place met ((t.children place).flatMap visits) := by
  choose ends same ordered members using each
  refine ⟨(t.children place).flatMap ends, ?_, ?_, fun names => ?_⟩
  · rw [List.map_flatMap]
    exact List.flatMap_congr fun n _ => same n
  · refine List.pairwise_flatMap.mpr ⟨fun n _ => ordered n, ?_⟩
    refine (t.pairwise_children place).imp fun {a b} earlier names ofA others ofB => ?_
    obtain ⟨rest, rfl⟩ := List.head?_eq_some_iff.mp ((members a names).mp ofA).1
    obtain ⟨more, rfl⟩ := List.head?_eq_some_iff.mp ((members b others).mp ofB).1
    exact List.cons_lt_cons_iff.mpr (.inl earlier)
  · rw [List.mem_flatMap]
    constructor
    · rintro ⟨n, -, listed⟩
      exact ((members n names).mp listed).2
    · intro holds
      obtain ⟨n, child, head⟩ := first names holds
      exact ⟨n, child, (members n names).mpr ⟨head, holds⟩⟩

/-- Of the names that begin with that of a file or a link, a walk gets to what that name alone leads
to.
-/
theorem areVisits_leaf {n : Tree.Name} {entry : Tree.Entry}
    (deeper : ∀ most, w.maxDepth = some most → before.length < most)
    (stands : t.get? (n :: place) = some entry) (leaf : entry ≠ .directory)
    : AreVisits t path before place
        (fun names => names.head? = some n ∧ w.Meets t path place before.length names)
        [visitAt t path before place [n]] := by
  refine (areVisits_singleton n).congr fun names => ⟨?_, ?_⟩
  · rintro rfl
    exact ⟨rfl, meets_cons_iff.mpr
      ⟨deeper, entry, stands, fun isDirectory => absurd isDirectory leaf, .inl rfl⟩⟩
  · rintro ⟨head, meets⟩
    obtain ⟨rest, rfl⟩ := List.head?_eq_some_iff.mp head
    obtain ⟨-, entry', stands', -, rfl | ⟨rfl, -⟩⟩ := meets_cons_iff.mp meets
    · rfl
    · exact absurd (Option.some.inj (stands.symm.trans stands')) leaf

/-- Of the names that begin with that of a directory which is entered, a walk gets to what that name
leads to and to all that it gets to from there.
-/
theorem areVisits_entered {n : Tree.Name} {visits : List Visit}
    (deeper : ∀ most, w.maxDepth = some most → before.length < most)
    (stands : t.get? (n :: place) = some .directory)
    (enters : w.filter.isEntered (Path.join path n.text) = true)
    (are
      : AreVisits t (Path.join path n.text) (before ++ [n.text]) (n :: place)
          (w.Meets t (Path.join path n.text) (n :: place) (before ++ [n.text]).length) visits)
    : AreVisits t path before place
        (fun names => names.head? = some n ∧ w.Meets t path place before.length names)
        (.directory (Path.join path n.text) :: visits) := by
  rw [List.length_append, List.length_singleton] at are
  refine (are.enter stands fun meets => meets.nonempty rfl).congr fun names => ⟨?_, ?_⟩
  · rintro ⟨rest, rfl, onward⟩
    refine ⟨rfl, meets_cons_iff.mpr ⟨deeper, _, stands, fun _ => enters, ?_⟩⟩
    exact onward.imp_right fun meets => ⟨rfl, meets⟩
  · rintro ⟨head, meets⟩
    obtain ⟨rest, rfl⟩ := List.head?_eq_some_iff.mp head
    obtain ⟨-, _, _, -, onward⟩ := meets_cons_iff.mp meets
    exact ⟨rest, rfl, onward.imp_right And.right⟩

/-- A walk that follows no links visits in a directory what it gets to from there, since it goes on
only in real directories, which are found at their paths. The recursion is that of the walk.
-/
theorem below_areVisits {path : String} {place : Tree.Location}
    (unfollowed : w.followLinks = false) (onPath : List (Tree.Location × String))
    (before : List String)
    (found : t.stat path = .ok (place, .directory)) (fits : t.FitsBelow path place)
    : AreVisits t path before place (w.Meets t path place before.length)
        (w.below t onPath path before place) := by
  rw [below]
  split
  next deep =>
    refine areVisits_nil fun names meets => ?_
    obtain ⟨most, limit, reached⟩ := (Option.any_eq_true _ _).mp deep
    obtain ⟨n, rest, rfl⟩ := List.exists_cons_of_ne_nil meets.nonempty
    have deeper := (meets_cons_iff.mp meets).1 most limit
    exact absurd deeper (Nat.not_lt.mpr (of_decide_eq_true reached))
  next shallow =>
    have deeper : ∀ most, w.maxDepth = some most → before.length < most := by
      intro most limit
      rw [limit] at shallow
      simpa using shallow
    simp only [found]
    refine AreVisits.children (fun n => ?_) fun names meets => ?_
    · split
      next absent =>
        refine areVisits_nil fun names isMet => ?_
        obtain ⟨head, meets⟩ := isMet
        obtain ⟨rest, rfl⟩ := List.head?_eq_some_iff.mp head
        obtain ⟨-, entry, stands, -⟩ := meets_cons_iff.mp meets
        cases absent.symm.trans stands
      next bytes stands =>
        have leaf : AreVisits t path before place _ _ := areVisits_leaf deeper stands (by simp)
        rw [visitAt, List.reverse_singleton, List.singleton_append, stands] at leaf
        exact leaf
      next stands =>
        split
        next enters =>
          have shallower : t.height - (n :: place).length < t.height - place.length := by
            have := Tree.length_le_height stands
            rw [List.length_cons] at this ⊢
            omega
          exact areVisits_entered deeper stands enters
            (below_areVisits unfollowed _ _ (fits.stat found stands (by simp)) (fits.into n))
        next excluded =>
          refine areVisits_nil fun names isMet => ?_
          obtain ⟨head, meets⟩ := isMet
          obtain ⟨rest, rfl⟩ := List.head?_eq_some_iff.mp head
          obtain ⟨-, entry, stands', enters, -⟩ := meets_cons_iff.mp meets
          exact excluded (enters (Option.some.inj (stands'.symm.trans stands)))
      next target stands =>
        have leaf : AreVisits t path before place _ _ := areVisits_leaf deeper stands (by simp)
        rw [visitAt, List.reverse_singleton, List.singleton_append, stands] at leaf
        rw [unfollowed, Bool.not_false, if_pos rfl]
        exact leaf
    · obtain ⟨n, rest, rfl⟩ := List.exists_cons_of_ne_nil meets.nonempty
      obtain ⟨-, entry, stands, -⟩ := meets_cons_iff.mp meets
      exact ⟨n, Tree.mem_children_iff.mpr ⟨entry, stands⟩, rfl⟩
termination_by t.height - place.length
decreasing_by exact shallower

end Walker

end Casebook
