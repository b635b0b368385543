import Casebook.Proofs.Tree.Children
import Casebook.Walk

/-! What a walk depends on. It sees only what stands where in a tree, not the order in which the
entries were made, and it meets the same whether unreadable entries are skipped or not.
-/

namespace Casebook

/-- Two trees have the same entries, in whatever order they were made, and relative paths start from
the same one.
-/
structure Tree.Alike (t t' : Tree) : Prop where
  home : t'.home = t.home
  entries : ∀ place, t'.get? place = t.get? place

namespace Tree.Alike

variable {t t' : Tree}

theorem refl (t : Tree)
    : t.Alike t :=
  ⟨rfl, fun _ => rfl⟩

/-- A path is followed through both trees alike, by induction on the links that it may lead through
and on its steps.
-/
theorem follow (alike : t.Alike t') (purpose : Purpose) (links : Nat) (place : Location)
    (path : List Step)
    : t'.follow purpose links place path = t.follow purpose links place path := by
  induction links generalizing place path with
  | zero =>
    rw [Tree.follow, Tree.follow]
    induction path generalizing place with
    | nil => rfl
    | cons step rest ih => simp only [stepThrough, alike.entries, ih]
  | succ links ihLinks =>
    rw [Tree.follow, Tree.follow]
    induction path generalizing place with
    | nil => rfl
    | cons step rest ih => simp only [stepThrough, alike.entries, ih, ihLinks]

theorem locate (alike : t.Alike t') (path : String) (purpose : Purpose)
    : t'.locate path purpose = t.locate path purpose := by
  rw [Tree.locate, Tree.locate, alike.home, alike.follow]

theorem stat (alike : t.Alike t') (path : String)
    : t'.stat path = t.stat path := by
  simp only [Tree.stat, alike.locate, alike.entries]

theorem linkStat (alike : t.Alike t') (path : String)
    : t'.linkStat path = t.linkStat path := by
  simp only [Tree.linkStat, alike.locate, alike.entries]

theorem isFile (alike : t.Alike t') (path : String)
    : t'.isFile path = t.isFile path := by
  rw [Tree.isFile, Tree.isFile, alike.stat]

/-- A directory holds the same names in both trees, and they are in order. -/
theorem children (alike : t.Alike t') (place : Location)
    : t'.children place = t.children place := by
  refine Name.eq_of_pairwise_bytes (t'.pairwise_children place) (t.pairwise_children place) fun n => ?_
  rw [mem_children_iff, mem_children_iff, alike.entries]

end Tree.Alike

namespace Walker

/-- Two walkers go the same way: they enter the same directories, go as deep and treat links alike.
-/
structure GoesAs (w w' : Walker) : Prop where
  filter : w'.filter = w.filter
  maxDepth : w'.maxDepth = w.maxDepth
  followLinks : w'.followLinks = w.followLinks

theorem GoesAs.refl (w : Walker)
    : w.GoesAs w :=
  ⟨rfl, rfl, rfl⟩

variable {t t' : Tree} {w w' : Walker}

/-- Walks that go the same way meet the same in both trees below a directory. The recursion is that
of the walk.
-/
theorem below_congr (alike : t.Alike t') (goes : w.GoesAs w')
    (onPath : List (Tree.Location × String)) (path : String) (names : List String)
    (place : Tree.Location)
    : w'.below t' onPath path names place = w.below t onPath path names place := by
  rw [below, below, goes.maxDepth]
  split
  next => rfl
  next =>
    simp only [alike.stat, alike.children, goes.filter, goes.followLinks]
    split
    next => rfl
    next =>
      refine List.flatMap_congr fun n _ => ?_
      -- The walk goes on by what stands at the name, which is one entry in both trees.
      have same := alike.entries (n :: place)
      generalize stands : t.get? (n :: place) = entry at same
      generalize t'.get? (n :: place) = entry' at same
      subst same
      rcases entry' with _ | _ | bytes | target
      case none | some.file => rfl
      case some.directory =>
        dsimp only
        rw [below_congr alike goes _ _ _ (n :: place)]
      case some.link =>
        have sameTarget := alike.stat (Path.join path n.text)
        dsimp only
        generalize followed : t.stat (Path.join path n.text) = found at sameTarget
        generalize t'.stat (Path.join path n.text) = found' at sameTarget
        subst sameTarget
        rcases found' with cause | ⟨q, _ | bytes | next⟩
        case error | ok.file | ok.link => rfl
        case ok.directory =>
          dsimp only
          generalize isNew : onPath.find? (·.1 = q) = visited
          cases visited with
          | some visited => rfl
          | none => rw [below_congr alike goes ((q, Path.join path n.text) :: onPath) _ _ q]
termination_by t.unvisited (onPath.map (·.1)) * (t.height + 1) + (t.height - place.length)
decreasing_by
  · exact Tree.measure_lt_of_deeper stands (onPath.map (·.1))
  · refine Tree.measure_lt_of_new (Tree.get?_of_stat followed) fun inList => ?_
    obtain ⟨visited, hv, same⟩ := List.mem_map.mp inList
    have differs := List.find?_eq_none.mp isNew visited hv
    simp [same] at differs

/-- Walks that go the same way meet the same in both trees. -/
theorem visits_congr (alike : t.Alike t') (goes : w.GoesAs w') (root : String)
    : w'.visits t' root = w.visits t root := by
  simp only [visits, alike.stat, alike.linkStat, goes.followLinks, below_congr alike goes]

/-- What walks that go the same way meet is judged alike in both trees. -/
theorem judge_congr (alike : t.Alike t') (goes : w.GoesAs w') (rootIsDirectory : Bool)
    : w'.judge t' rootIsDirectory = w.judge t rootIsDirectory := by
  funext visit
  cases visit with
  | directory | unreadable | loop => rfl
  | file path relativePath => simp only [judge, judgeFile, alike.stat, goes.filter]
  | link path relativePath => simp only [judge, judgeFile, alike.isFile, alike.stat, goes.filter]

/-- A listing does not depend on the order in which the entries of a tree were made. -/
theorem list_congr (alike : t.Alike t') (w : Walker) (root : String)
    : w.list t' root = w.list t root := by
  have goes := GoesAs.refl w
  simp only [list, alike.stat, visits_congr alike goes, judge_congr alike goes]

end Walker

end Casebook
