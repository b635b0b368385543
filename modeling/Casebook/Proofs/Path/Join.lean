import Casebook.Path
import Casebook.Proofs.Tree.Ending

/-! Names put below a directory. The path has the components of the directory and one more, the
name, so different names have different paths.
-/

namespace Casebook.Path

theorem head?_ne_separator (n : Tree.Name)
    : n.text.toList.head? ≠ some '/' :=
  fun first => n.separator_not_mem (List.mem_of_head? first)

/-- A name is none of the texts that stand for nothing or for a direction. -/
theorem name_ne (n : Tree.Name)
    : n.text.toList ≠ [] ∧ n.text.toList ≠ ['.'] ∧ n.text.toList ≠ ['.', '.'] := by
  have valid := n.valid
  simp only [Tree.isName, Bool.and_eq_true, Bool.not_eq_true', decide_eq_true_eq] at valid
  obtain ⟨⟨⟨nonempty, -⟩, notHere⟩, notUp⟩ := valid
  refine ⟨fun empty => ?_, fun here => notHere (String.toList_injective here),
    fun up => notUp (String.toList_injective up)⟩
  rw [String.toList_eq_nil_iff.mp empty] at nonempty
  cases nonempty

/-- A name stands for itself between two separators. -/
theorem ofPart?_name (n : Tree.Name)
    : Component.ofPart? n.text.toList = some (.name n.text) := by
  obtain ⟨nonempty, notHere, notUp⟩ := name_ne n
  rw [Component.ofPart?, if_neg (not_or.mpr ⟨nonempty, notHere⟩), if_neg notUp,
    String.ofList_toList]

/-- A name behind a separator is one more component, whatever stands before. -/
theorem components_of_split {path below : String} {first : List Char}
    {rest rest' : List (List Char)} {n : Tree.Name}
    (parts : Text.split '/' path.toList = first :: rest)
    (partsBelow : Text.split '/' below.toList = first :: (rest' ++ [n.text.toList]))
    (sameRest : rest.filterMap Component.ofPart? = rest'.filterMap Component.ofPart?)
    (nonempty : first = [] → rest ≠ [])
    : components below = components path ++ [.name n.text] := by
  have start
      : (first = [] ∧ rest' ++ [n.text.toList] ≠ []) ↔ (first = [] ∧ rest ≠ []) :=
    ⟨fun empty => ⟨empty.1, nonempty empty.1⟩, fun empty => ⟨empty.1, by simp⟩⟩
  rw [components, components, parts, partsBelow]
  simp only [start, sameRest, List.filterMap_append, List.filterMap_cons, ofPart?_name,
    List.filterMap_nil, List.append_assoc]

/-- The path of a name below a directory has the components of the directory and then the name. -/
theorem components_join (directory : String) (n : Tree.Name)
    : components (join directory n.text) = components directory ++ [.name n.text] := by
  have name : Text.split '/' n.text.toList = [n.text.toList] :=
    Text.split_of_not_mem n.separator_not_mem
  unfold join
  simp only [head?_ne_separator, false_or]
  split
  next empty =>
    obtain ⟨nonempty, notHere, -⟩ := name_ne n
    have none : components "" = [] := rfl
    rw [String.isEmpty_iff.mp empty, none, List.nil_append, components, name]
    simp only [nonempty, notHere, false_and, if_false, ofPart?_name, List.filterMap_nil,
      Option.toList_some, List.append_nil]
  next nonempty =>
    -- An empty first part is the root only where another part follows it.
    have rooted {first : List Char} {rest : List (List Char)}
        (parts : Text.split '/' directory.toList = first :: rest) (none : first = [])
        : rest ≠ [] := by
      rintro rfl
      have empty := (Text.eq_of_split_eq_singleton parts).trans none
      exact nonempty (String.isEmpty_iff.mpr (String.toList_eq_nil_iff.mp empty))
    split
    next slash =>
      obtain ⟨above, known⟩ := List.getLast?_eq_some_iff.mp slash
      obtain ⟨first, rest, partsAbove⟩ :=
        List.exists_cons_of_ne_nil (Text.split_ne_nil '/' above)
      have parts : Text.split '/' directory.toList = first :: (rest ++ Text.split '/' []) := by
        rw [known, Text.split_append_cons, partsAbove, List.cons_append]
      have partsBelow
          : Text.split '/' (directory ++ n.text).toList = first :: (rest ++ [n.text.toList]) := by
        rw [String.toList_append, known, List.append_assoc]
        exact (Text.split_append_cons '/' above n.text.toList).trans
          (by rw [partsAbove, name, List.cons_append])
      refine components_of_split parts partsBelow ?_ (rooted parts)
      -- What stands behind the last separator has no component.
      rw [List.filterMap_append]
      exact List.append_nil _
    next =>
      obtain ⟨first, rest, parts⟩ :=
        List.exists_cons_of_ne_nil (Text.split_ne_nil '/' directory.toList)
      refine components_of_split parts ?_ rfl (rooted parts)
      rw [String.toList_append, String.toList_append, List.append_assoc]
      exact (Text.split_append_cons '/' directory.toList n.text.toList).trans
        (by rw [parts, name, List.cons_append])

end Casebook.Path
