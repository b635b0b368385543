import Casebook.Proofs.Text.Split
import Casebook.Proofs.Tree.Destination
import Casebook.Tree.Extent

/-! Paths that end with a name. They lead to an entry of that name, in whatever directory the
steps before it lead to, unless a link of that name stands there.
-/

namespace Casebook.Tree

/-- A name holds no separator. -/
theorem Name.separator_not_mem (n : Name)
    : '/' ∉ n.text.toList := by
  intro member
  have valid := n.valid
  simp only [isName, Bool.and_eq_true, List.all_eq_true] at valid
  simpa using valid.1.1.2 '/' member

/-- The step of a name goes into the entry with it. -/
theorem Step.ofPart_name (n : Name)
    : Step.ofPart n.text.toList = .into n := by
  have valid := n.valid
  simp only [isName, Bool.and_eq_true, Bool.not_eq_true', decide_eq_true_eq] at valid
  obtain ⟨⟨⟨nonempty, -⟩, -⟩, notUp⟩ := valid
  have isPart : n.text.toList.isEmpty = false := by
    rw [List.isEmpty_eq_false_iff, ne_eq, String.toList_eq_nil_iff]
    rintro empty
    rw [empty] at nonempty
    cases nonempty
  have notParent : n.text.toList ≠ ['.', '.'] := fun same =>
    notUp (String.toList_injective same)
  have known : Name.ofText? n.text = some n := dif_pos n.valid
  simp only [Step.ofPart, isPart, notParent, Bool.false_eq_true, if_false, String.ofList_toList,
    known]

theorem steps_name (n : Name)
    : steps n.text.toList = [.into n] := by
  rw [steps, Text.split_of_not_mem n.separator_not_mem, List.map_singleton, Step.ofPart_name]

/-- The path of a name below a directory makes the steps of the directory and then the step into the
name, if the directory is not empty and no separator ends it.
-/
theorem steps_join {directory : String} (n : Name) (nonempty : directory.isEmpty = false)
    (noSlash : directory.toList.getLast? ≠ some '/')
    : steps (Path.join directory n.text).toList = steps directory.toList ++ [.into n] := by
  have relative : n.text.toList.head? ≠ some '/' := fun first =>
    n.separator_not_mem (List.mem_of_head? first)
  have joined : Path.join directory n.text = directory ++ "/" ++ n.text := by
    rw [Path.join, if_neg noSlash, if_neg]
    simp only [relative, nonempty, Bool.false_eq_true, or_self, not_false_eq_true]
  rw [joined, String.toList_append, String.toList_append, List.append_assoc]
  calc steps (directory.toList ++ '/' :: n.text.toList)
    _ = steps directory.toList ++ steps n.text.toList := by
      rw [steps, Text.split_append_cons, List.map_append, ← steps, ← steps]
    _ = steps directory.toList ++ [.into n] := by rw [steps_name]

/-- A path that ends with a separator and a name ends with the step into it. -/
theorem getLast?_steps_append (above : List Char) (n : Name)
    : (steps (above ++ '/' :: n.text.toList)).getLast? = some (.into n) := by
  rw [steps, Text.split_append_cons, List.map_append, ← steps, ← steps, steps_name,
    List.getLast?_concat]

/-- The path of a name below a directory ends with the step into it. -/
theorem getLast?_steps_join (directory : String) (n : Name)
    : (steps (Path.join directory n.text).toList).getLast? = some (.into n) := by
  unfold Path.join
  split
  next => rw [steps_name, List.getLast?_singleton]
  next =>
    split
    next slash =>
      obtain ⟨above, known⟩ := List.getLast?_eq_some_iff.mp slash
      rw [String.toList_append, known, List.append_assoc]
      exact getLast?_steps_append above n
    next =>
      rw [String.toList_append, String.toList_append, List.append_assoc]
      exact getLast?_steps_append directory.toList n

/-- The step into a last name is the only one, or the last one of those that follow. -/
private theorem eq_nil_or_getLast? {step : Step} {rest : List Step} {n : Name}
    (last : (step :: rest).getLast? = some (.into n))
    : (step = .into n ∧ rest = []) ∨ rest.getLast? = some (.into n) := by
  cases rest with
  | nil => exact .inl ⟨Option.some.inj last, rfl⟩
  | cons next more => exact .inr (List.getLast?_cons_cons.symm.trans last)

/-- A name is not the last one of its path where another one follows. -/
theorem Purpose.endsBefore_of_getLast? (purpose : Purpose) {rest : List Step} {n : Name}
    (last : rest.getLast? = some (.into n))
    : purpose.endsBefore rest = false := by
  have member : Step.into n ∈ rest := List.mem_of_getLast? last
  have nonempty : rest.isEmpty = false :=
    List.isEmpty_eq_false_iff.mpr (List.ne_nil_of_mem member)
  cases purpose with
  | makeDirectory => exact List.all_eq_false.mpr ⟨_, member, by simp⟩
  | find => exact nonempty
  | findLink => exact nonempty
  | writeFile => exact nonempty

/-- Steps that end with a name lead to an entry of that name, or a link of that name is what they
lead to where links are not followed. By induction on the way there.
-/
theorem Leads.ending {t : Tree} {purpose : Purpose} {links : Nat} {place : Location}
    {path : List Step} {found : Place} (leads : t.Leads purpose links place path found) {n : Name}
    (last : path.getLast? = some (.into n))
    : ∃ above,
        found.location = n :: above
        ∨ t.Leads .findLink links place path (.entry (n :: above))
          ∧ ∃ target, t.get? (n :: above) = some (.link target) := by
  -- Before the last name every purpose leads the same way.
  have goesOn {rest : List Step} (last : rest.getLast? = some (.into n)) :=
    Purpose.findLink.endsBefore_of_getLast? last
  induction leads with
  | done => cases last
  | stay directory stays _ ih =>
    rcases eq_nil_or_getLast? last with ⟨rfl, _⟩ | later
    · rcases stays with impossible | impossible <;> cases impossible
    · obtain ⟨above, ended⟩ := ih later
      exact ⟨above, ended.imp_right (And.imp_left (.stay directory stays))⟩
  | up directory _ ih =>
    rcases eq_nil_or_getLast? last with ⟨impossible, _⟩ | later
    · cases impossible
    · obtain ⟨above, ended⟩ := ih later
      exact ⟨above, ended.imp_right (And.imp_left (.up directory))⟩
  | down directory admitted behind below _ ih =>
    rcases eq_nil_or_getLast? last with ⟨_, rfl⟩ | later
    · exact absurd rfl (Purpose.ne_nil_of_goesOn behind)
    · obtain ⟨above, ended⟩ := ih later
      exact ⟨above, ended.imp_right
        (And.imp_left (.down directory ⟨rfl, admitted.2⟩ (goesOn later) below))⟩
  | @link _ _ _ rest target _ directory admitted _ stands nonempty _ ih =>
    rcases eq_nil_or_getLast? last with ⟨same, rfl⟩ | later
    -- The last name is that of a link, which is where a path ends that does not follow it.
    · cases same
      exact ⟨_, .inr ⟨.entry directory ⟨rfl, admitted.2⟩ rfl stands nofun, _, stands⟩⟩
    · have behind : (steps target.toList ++ rest).getLast? = some (.into n) := by
        rw [List.getLast?_append, later, Option.some_or]
      obtain ⟨above, ended⟩ := ih behind
      exact ⟨above, ended.imp_right
        (And.imp_left (.link directory ⟨rfl, admitted.2⟩ (.inl (goesOn later)) stands nonempty))⟩
  | entry _ _ ends =>
    rcases eq_nil_or_getLast? last with ⟨same, _⟩ | later
    · cases same
      exact ⟨_, .inl rfl⟩
    · rw [Purpose.endsBefore_of_getLast? _ later] at ends
      cases ends
  | vacant _ _ ends =>
    rcases eq_nil_or_getLast? last with ⟨same, _⟩ | later
    · cases same
      exact ⟨_, .inl rfl⟩
    · rw [Purpose.endsBefore_of_getLast? _ later] at ends
      cases ends

/-- A path that ends with a name and at no link leads to an entry of that name. -/
theorem destination?_ending {t : Tree} {path : String} {n : Name} {q : Location}
    (last : (steps path.toList).getLast? = some (.into n))
    (noLink : t.isLink path = false)
    (leads : t.destination? path = some q)
    : ∃ above, q = n :: above := by
  obtain ⟨found, located, rfl⟩ := destination?_eq_some_iff.mp leads
  obtain ⟨isPath, way⟩ := locate_eq_ok_iff.mp located
  obtain ⟨above, here | ⟨way', target, stands⟩⟩ := way.ending last
  · exact ⟨above, here⟩
  · have isLink : t.linkStat path = .ok (n :: above, .link target) := by
      refine linkStat_eq_ok_iff.mpr ⟨?_, stands⟩
      exact destination?_eq_some_iff.mpr ⟨_, locate_eq_ok_iff.mpr ⟨isPath, way'⟩, rfl⟩
    rw [Tree.isLink, isLink] at noLink
    cases noLink

-----------------------------------------------------------------------------------------
-- Paths that lead nowhere
-----------------------------------------------------------------------------------------

end Casebook.Tree
