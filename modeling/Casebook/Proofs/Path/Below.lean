import Casebook.Proofs.Path.Ancestors
import Casebook.Proofs.Path.Join
import Casebook.Proofs.Text.ByteOrder

/-! Paths of what names lead to below a root. Putting the names below the root one by one makes the
same path as putting them below it all at once, and the path that the names make by themselves has
them as its components.
-/

namespace Casebook.Path

/-- The path that names make by themselves. -/
def ofNames (names : List Tree.Name) : String :=
  String.intercalate "/" (names.map Tree.Name.text)

/-- The path of what names lead to from a root, one below the other. -/
def below (root : String) (names : List Tree.Name) : String :=
  names.foldl (fun path n => join path n.text) root

/-- The components of a path as bytes, by which paths are put in order. -/
def componentBytes (path : String) : List (List UInt8) :=
  (components path).map fun c => Text.bytes c.text

/-- A text that does not begin at the root is put behind the same front, whatever it is. -/
theorem exists_front (directory : String)
    : ∃ front, ∀ name : String, name.toList.head? ≠ some '/' →
        join directory name = front ++ name := by
  by_cases empty : directory.isEmpty = true
  · refine ⟨"", fun name relative => ?_⟩
    rw [join, if_pos (.inr empty), String.empty_append]
  · by_cases slash : directory.toList.getLast? = some '/'
    · refine ⟨directory, fun name relative => ?_⟩
      rw [join, if_neg (not_or.mpr ⟨relative, empty⟩), if_pos slash]
    · refine ⟨directory ++ "/", fun name relative => ?_⟩
      rw [join, if_neg (not_or.mpr ⟨relative, empty⟩), if_neg slash]

/-- A path that ends with a name is a directory to what is put below it. -/
theorem join_append_name (front : String) (n : Tree.Name) {name : String}
    (relative : name.toList.head? ≠ some '/')
    : join (front ++ n.text) name = front ++ n.text ++ "/" ++ name := by
  have nonempty : (front ++ n.text).isEmpty = false := by
    rw [Bool.eq_false_iff, ne_eq, String.isEmpty_iff, String.append_eq_empty_iff]
    exact fun empty => (name_ne n).1 (String.toList_eq_nil_iff.mpr empty.2)
  have noSlash : (front ++ n.text).toList.getLast? ≠ some '/' := by
    rw [String.toList_append, List.getLast?_append_of_ne_nil _ (name_ne n).1]
    exact fun last => n.separator_not_mem (List.mem_of_getLast? last)
  rw [join, if_neg (not_or.mpr ⟨relative, Bool.eq_false_iff.mp nonempty⟩), if_neg noSlash]

theorem ofNames_cons_cons (n m : Tree.Name) (rest : List Tree.Name)
    : ofNames (n :: m :: rest) = n.text ++ "/" ++ ofNames (m :: rest) :=
  String.intercalate_cons_cons

/-- No path that names make begins at the root. -/
theorem head?_ofNames (names : List Tree.Name)
    : (ofNames names).toList.head? ≠ some '/' := by
  cases names with
  | nil => nofun
  | cons n rest =>
    have relative := head?_ne_separator n
    cases rest with
    | nil => rwa [ofNames, List.map_singleton, String.intercalate_singleton]
    | cons m more =>
      rw [ofNames_cons_cons, String.toList_append, String.toList_append, List.append_assoc,
        List.head?_append_of_ne_nil _ (name_ne n).1]
      exact relative

/-- Names that are put below a directory one by one could have been put there at once, by induction
on them.
-/
theorem join_ofNames (root : String) {names : List Tree.Name} (some : names ≠ [])
    : join root (ofNames names) = below root names := by
  induction names generalizing root with
  | nil => exact absurd rfl some
  | cons n rest ih =>
    cases rest with
    | nil =>
      rw [ofNames, List.map_singleton, String.intercalate_singleton]
      rfl
    | cons m more =>
      obtain ⟨front, behind⟩ := exists_front root
      have relative := head?_ofNames (n :: m :: more)
      calc join root (ofNames (n :: m :: more))
        _ = front ++ (n.text ++ "/" ++ ofNames (m :: more)) := by
          rw [behind _ relative, ofNames_cons_cons]
        _ = join (front ++ n.text) (ofNames (m :: more)) := by
          rw [join_append_name front n (head?_ofNames _), String.append_assoc,
            String.append_assoc, String.append_assoc]
        _ = join (join root n.text) (ofNames (m :: more)) := by
          rw [behind n.text (head?_ne_separator n)]
        _ = below root (n :: m :: more) := ih (join root n.text) (List.cons_ne_nil m more)

/-- The components of the path that names make are the names. -/
theorem components_ofNames (names : List Tree.Name)
    : components (ofNames names) = names.map fun n => .name n.text := by
  have inner (n : Tree.Name) : (Component.name n.text).IsInner :=
    ⟨n.separator_not_mem, ofPart?_name n⟩
  have ofPath : AreOfPath (names.map fun n => Component.name n.text) := by
    cases names with
    | nil => trivial
    | cons n rest =>
      refine ⟨.inr (.inr (inner n)), fun c member => ?_⟩
      obtain ⟨m, -, rfl⟩ := List.mem_map.mp member
      exact inner m
  have same : ofComponents (names.map fun n => Component.name n.text) = ofNames names := by
    cases names with
    | nil => rfl
    | cons n rest =>
      calc ofComponents (.name n.text :: rest.map fun n => .name n.text)
        _ = String.intercalate "/" (((n :: rest).map fun n => .name n.text).map Component.text) :=
          rfl
        _ = ofNames (n :: rest) := by
          rw [List.map_map]
          rfl
  rw [← same, components_ofComponents ofPath]

theorem componentBytes_ofNames (names : List Tree.Name)
    : componentBytes (ofNames names) = names.map fun n => Text.bytes n.text := by
  rw [componentBytes, components_ofNames, List.map_map]
  rfl

end Casebook.Path
