import Mathlib.Data.List.Basic
import Casebook.Proofs.Path.Join

/-! Going on below a directory. Whatever stands in a directory to which a path leads is found at the
path of its name below that directory, unless it is a link or its path or name is too long.
-/

namespace Casebook.Tree

/-- A step that is taken comes before the separators at the end of the steps. -/
private theorem exists_front_cons {front blanks rest : List Step} {step : Step}
    (blank : blanks.all (· = .blank) = true) (steps : front ++ blanks = step :: rest)
    (taken : step ≠ .blank)
    : ∃ more, front = step :: more ∧ more ++ blanks = rest := by
  cases front with
  | nil =>
    rw [List.nil_append] at steps
    rw [steps, List.all_cons, Bool.and_eq_true, decide_eq_true_eq] at blank
    exact absurd blank.1 taken
  | cons first more =>
    obtain ⟨rfl, behind⟩ := List.cons.inj steps
    exact ⟨more, rfl, behind⟩

/-- A name that is not the last one of its path leads on into the directory of that name. -/
private theorem stepThrough_directory {t : Tree}
    {onLink : Location → List Step → Except IoError Place} {purpose : Purpose} {place : Location}
    {n : Name} {rest : List Step} (here : t.get? place = some .directory)
    (admitted : purpose.Admits n rest) (goesOn : purpose.endsBefore rest = false)
    (below : t.get? (n :: place) = some .directory)
    : t.stepThrough onLink purpose place (.into n :: rest)
      = t.stepThrough onLink purpose (n :: place) rest := by
  simp only [stepThrough, here, admitted.1, Nat.not_lt.mpr admitted.2, goesOn, below, ne_eq,
    not_true_eq_false, if_false, Bool.false_eq_true]

/-- Behind the steps to a directory, without the separators at their end, all other steps are
followed as from the directory, with the links that are left. By induction on the way to it.
-/
theorem Leads.exists_follow_append {t : Tree} {links : Nat} {start place : Location}
    {front blanks : List Step}
    (leads : t.Leads .find links start (front ++ blanks) (.entry place))
    (blank : blanks.all (· = .blank) = true) (directory : t.get? place = some .directory)
    : ∃ fewer,
        ∀ rest ≠ [],
          t.follow .find links start (front ++ rest) = t.follow .find fewer place rest := by
  -- No name of the way is the last one before more steps.
  have goesOn (back : List Step) {rest : List Step} (more : rest ≠ [])
      : Purpose.find.endsBefore (back ++ rest) = false :=
    List.isEmpty_eq_false_iff.mpr (List.append_ne_nil_of_right_ne_nil back more)
  generalize same : front ++ blanks = path at leads
  generalize target : Place.entry place = found at leads
  induction leads generalizing front blanks with
  | @done links =>
    cases target
    obtain ⟨rfl, -⟩ := List.append_eq_nil_iff.mp same
    exact ⟨links, fun rest more => rfl⟩
  | @stay _ _ step _ _ here stays _ ih =>
    cases front with
    | nil =>
      -- Only separators are left, so the way stays where it is.
      rw [List.nil_append] at same
      rw [same, List.all_cons, Bool.and_eq_true] at blank
      exact ih blank.2 (List.nil_append _ : [] ++ _ = _) target
    | cons first back =>
      obtain ⟨rfl, behind⟩ := List.cons.inj same
      obtain ⟨fewer, onward⟩ := ih blank behind target
      refine ⟨fewer, fun rest more => onward rest more ▸ ?_⟩
      rw [follow_eq, List.cons_append]
      rcases stays with rfl | rfl <;>
        simp only [stepThrough, here, ne_eq, not_true_eq_false, if_false]
  | up here _ ih =>
    obtain ⟨back, rfl, behind⟩ := exists_front_cons blank same (by simp)
    obtain ⟨fewer, onward⟩ := ih blank behind target
    refine ⟨fewer, fun rest more => onward rest more ▸ ?_⟩
    rw [follow_eq, List.cons_append]
    simp only [stepThrough, here, ne_eq, not_true_eq_false, if_false]
  | down here admitted _ below _ ih =>
    obtain ⟨back, rfl, behind⟩ := exists_front_cons blank same (by simp)
    obtain ⟨fewer, onward⟩ := ih blank behind target
    refine ⟨fewer, fun rest more => onward rest more ▸ ?_⟩
    rw [follow_eq, List.cons_append]
    exact stepThrough_directory here ⟨rfl, admitted.2⟩ (goesOn back more) below
  | @link links _ n _ path _ here admitted _ link nonempty _ ih =>
    obtain ⟨back, rfl, behind⟩ := exists_front_cons blank same (by simp)
    obtain ⟨fewer, onward⟩ :=
      ih blank ((List.append_assoc _ _ _).trans (congrArg _ behind)) target
    refine ⟨fewer, fun rest more => onward rest more ▸ ?_⟩
    rw [follow_eq, List.cons_append, List.append_assoc]
    simp only [stepThrough, followLink, here, Purpose.refuses, Nat.not_lt.mpr admitted.2, link,
      goesOn back more, nonempty, ne_eq, not_true_eq_false, if_false, Bool.false_eq_true,
      Bool.false_and, reduceCtorEq, decide_false]
  | @entry links _ _ _ _ here admitted ends _ _ =>
    cases target
    obtain ⟨back, rfl, behind⟩ := exists_front_cons blank same (by simp)
    obtain ⟨rfl, -⟩ := List.append_eq_nil_iff.mp (behind.trans (List.isEmpty_iff.mp ends))
    refine ⟨links, fun rest more => ?_⟩
    rw [follow_eq, List.cons_append]
    exact stepThrough_directory here ⟨rfl, admitted.2⟩ (goesOn [] more) directory
  | vacant => cases target

/-- The path of any name below a directory makes the steps of the directory, without a separator
that ends them, and then the step into the name.
-/
theorem exists_steps_join {directory : String} (nonempty : directory.isEmpty = false)
    : ∃ front blanks : List Step,
        steps directory.toList = front ++ blanks
        ∧ blanks.all (· = .blank) = true
        ∧ ∀ n : Name, steps (Path.join directory n.text).toList = front ++ [.into n] := by
  by_cases slash : directory.toList.getLast? = some '/'
  · obtain ⟨above, known⟩ := List.getLast?_eq_some_iff.mp slash
    refine ⟨steps above, [.blank], ?_, rfl, fun n => ?_⟩
    · rw [known, steps, Text.split_append_cons, List.map_append, ← steps]
      rfl
    · have relative := Path.head?_ne_separator n
      have joined : Path.join directory n.text = directory ++ n.text := by
        rw [Path.join, if_neg (not_or.mpr ⟨relative, Bool.eq_false_iff.mp nonempty⟩), if_pos slash]
      rw [joined, String.toList_append, known, List.append_assoc, List.singleton_append, steps,
        Text.split_append_cons, List.map_append, ← steps, ← steps, steps_name]
  · exact ⟨steps directory.toList, [], (List.append_nil _).symm, rfl,
      fun n => steps_join n nonempty slash⟩

/-- A name behind a path that is not empty comes right behind it or behind one more separator. -/
theorem join_eq_or {directory : String} (n : Name) (nonempty : directory.isEmpty = false)
    : Path.join directory n.text = directory ++ n.text
      ∨ Path.join directory n.text = directory ++ "/" ++ n.text := by
  unfold Path.join
  rw [if_neg (not_or.mpr ⟨Path.head?_ne_separator n, Bool.eq_false_iff.mp nonempty⟩)]
  split
  next => exact .inl rfl
  next => exact .inr rfl

/-- A path below a directory starts where the path of the directory does. -/
theorem startOf_join (base : Location) {directory : String} (n : Name)
    (nonempty : directory.isEmpty = false)
    : startOf base (Path.join directory n.text).toList = startOf base directory.toList := by
  have some : directory.toList ≠ [] := by
    rwa [ne_eq, String.toList_eq_nil_iff, ← String.isEmpty_iff, ← ne_eq, ← Bool.eq_false_iff]
  unfold startOf
  rcases join_eq_or n nonempty with joined | joined <;>
    simp only [joined, String.toList_append, List.append_assoc,
      List.head?_append_of_ne_nil _ some]

/-- The path of a name below a directory is not empty and has no NUL in it, as that of the
directory.
-/
theorem noNul_join {directory : String} (n : Name)
    (noNul : directory.toList.contains '\x00' = false) (nonempty : directory.isEmpty = false)
    : (Path.join directory n.text).toList.contains '\x00' = false
      ∧ (Path.join directory n.text).isEmpty = false := by
  rw [List.contains_eq_mem, decide_eq_false_iff_not] at noNul
  have noNulInName : '\x00' ∉ n.text.toList := by
    intro member
    have valid := n.valid
    simp only [isName, Bool.and_eq_true, List.all_eq_true] at valid
    simpa using valid.1.1.2 '\x00' member
  refine ⟨?_, ?_⟩
  · rw [List.contains_eq_mem, decide_eq_false_iff_not]
    rcases join_eq_or n nonempty with joined | joined
    · simp [joined, noNul, noNulInName]
    · simp [joined, noNul, noNulInName]
  · have joined := join_eq_or n nonempty
    rw [Bool.eq_false_iff, ne_eq, String.isEmpty_iff] at nonempty ⊢
    rcases joined with joined | joined
    · simp [joined, nonempty]
    · simp [joined, nonempty]

/-- What is no link and stands in a directory is found at its name below the directory's path, and
cannot be found only because that path or the name is too long.
-/
theorem stat_join_eq_ite {t : Tree} {directory : String} {place : Location} {n : Name} {e : Entry}
    (found : t.stat directory = .ok (place, .directory))
    (stands : t.get? (n :: place) = some e) (noLink : ∀ target, e ≠ .link target)
    : t.stat (Path.join directory n.text)
      = if (Path.join directory n.text).utf8ByteSize > maxPathBytes
            ∨ n.text.utf8ByteSize > maxNameBytes then
          .error .nameTooLong
        else .ok (n :: place, e) := by
  obtain ⟨leads, isDirectory⟩ := stat_eq_ok_iff.mp found
  obtain ⟨ended, located, rfl⟩ := destination?_eq_some_iff.mp leads
  obtain ⟨isPath, way⟩ := locate_eq_ok_iff.mp located
  cases ended with
  | vacant place => exact absurd (way.vacant_absent.1.symm.trans isDirectory) nofun
  | entry place =>
    obtain ⟨front, blanks, steps, blank, stepsJoin⟩ := exists_steps_join isPath.2.1
    rw [steps] at way
    obtain ⟨fewer, onward⟩ := way.exists_follow_append blank isDirectory
    obtain ⟨noNul, nonempty⟩ := noNul_join n isPath.1 isPath.2.1
    -- From the directory only the last name is left.
    have last
        : t.follow .find fewer place [.into n]
          = if n.text.utf8ByteSize > maxNameBytes then .error .nameTooLong
            else .ok (.entry (n :: place)) := by
      rw [Place.location] at isDirectory stands
      rw [follow_eq, stepThrough, isDirectory, stands]
      cases e with
      | link target => exact absurd rfl (noLink target)
      | directory => rfl
      | file bytes => rfl
    rw [stat, locate, noNul, nonempty, startOf_join t.home n isPath.2.1, stepsJoin,
      onward [.into n] (List.cons_ne_nil _ _), last]
    simp only [Bool.false_eq_true, if_false]
    by_cases long : (Path.join directory n.text).utf8ByteSize > maxPathBytes
    · rw [if_pos long, if_pos (.inl long)]
      rfl
    · rw [if_neg long]
      by_cases longName : n.text.utf8ByteSize > maxNameBytes
      · rw [if_pos longName, if_pos (.inr longName)]
        rfl
      · rw [if_neg longName, if_neg (not_or.mpr ⟨long, longName⟩)]
        simp only [bind, Except.bind]
        rw [Place.location] at stands
        rw [stands]
        rfl

/-- What stands in a directory is found at its name below the directory's path. -/
theorem stat_join {t : Tree} {directory : String} {place : Location} {n : Name} {e : Entry}
    (found : t.stat directory = .ok (place, .directory))
    (stands : t.get? (n :: place) = some e) (noLink : ∀ target, e ≠ .link target)
    (short : n.text.utf8ByteSize ≤ maxNameBytes)
    (fits : (Path.join directory n.text).utf8ByteSize ≤ maxPathBytes)
    : t.stat (Path.join directory n.text) = .ok (n :: place, e) := by
  rw [stat_join_eq_ite found stands noLink,
    if_neg (not_or.mpr ⟨Nat.not_lt.mpr fits, Nat.not_lt.mpr short⟩)]

/-- Nothing else is found at the name below a directory's path than what stands in the directory. -/
theorem stat_join_eq {t : Tree} {directory : String} {place q : Location} {n : Name} {e e' : Entry}
    (found : t.stat directory = .ok (place, .directory))
    (stands : t.get? (n :: place) = some e) (noLink : ∀ target, e ≠ .link target)
    (joined : t.stat (Path.join directory n.text) = .ok (q, e'))
    : q = n :: place ∧ e' = e := by
  rw [stat_join_eq_ite found stands noLink] at joined
  split at joined
  next => cases joined
  next =>
    cases joined
    exact ⟨rfl, rfl⟩

end Casebook.Tree
