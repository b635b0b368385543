import Casebook.Proofs.Path.Ancestors
import Casebook.Proofs.Path.Join

/-! Names and extensions at the end of a path. A path below a directory ends with the name that was
put there, whatever the directory is, and every text without dots and separators is the extension
of some path.
-/

namespace Casebook.Path

theorem fileName?_join (directory : String) (n : Tree.Name)
    : fileName? (join directory n.text) = some n.text := by
  rw [fileName?, components_join, List.getLast?_concat]

theorem extension?_join (directory : String) (n : Tree.Name)
    : extension? (join directory n.text) = extensionOfName? n.text := by
  rw [extension?, fileName?_join, Option.bind_some]

/-- The text could be an extension: it has neither dots nor separators. -/
def IsEnding (text : String) : Prop :=
  '.' ∉ text.toList ∧ '/' ∉ text.toList

theorem separator_not_mem_of_fileName? {path name : String} (found : fileName? path = some name)
    : '/' ∉ name.toList := by
  have last : (components path).getLast? = some (.name name) := by
    unfold fileName? at found
    split at found
    next known => rw [known, Option.some.inj found]
    next => cases found
  have ofPath := areOfPath_components path
  have member := List.mem_of_getLast? last
  cases known : components path with
  | nil =>
    rw [known] at member
    cases member
  | cons first rest =>
    rw [known] at ofPath member
    rcases List.mem_cons.mp member with rfl | later
    · rcases ofPath.1 with root | here | inner
      · cases root
      · cases here
      · exact inner.1
    · exact (ofPath.2 _ later).1

/-- An extension has neither dots nor separators. -/
theorem isEnding_of_extension? {path ending : String} (found : extension? path = some ending)
    : IsEnding ending := by
  obtain ⟨name, named, ends⟩ := Option.bind_eq_some_iff.mp found
  unfold extensionOfName? at ends
  simp only [Option.ite_none_left_eq_some, Option.map_eq_some_iff] at ends
  obtain ⟨-, -, part, last, rfl⟩ := ends
  have member := List.mem_of_getLast? last
  rw [IsEnding, String.toList_ofList]
  exact ⟨Text.not_mem_of_mem_split member,
    fun slash => separator_not_mem_of_fileName? named (Text.subset_of_mem_split member slash)⟩

/-- A letter with a dot and an ending behind it has the ending as its extension. -/
theorem extension?_of_isEnding {ending : String} (fits : IsEnding ending)
    : extension? ("a." ++ ending) = some ending := by
  have letters : ("a." ++ ending).toList = 'a' :: '.' :: ending.toList := by
    rw [String.toList_append]
    rfl
  have noSlash : '/' ∉ 'a' :: '.' :: ending.toList := by simp [fits.2]
  have part : Component.ofPart? ('a' :: '.' :: ending.toList) = some (.name ("a." ++ ending)) := by
    rw [Component.ofPart?, if_neg (by simp), if_neg (by simp), ← letters, String.ofList_toList]
  have named : fileName? ("a." ++ ending) = some ("a." ++ ending) := by
    rw [fileName?, components, letters, Text.split_of_not_mem noSlash]
    simp [part]
  have parts : Text.split '.' ('a' :: '.' :: ending.toList) = [['a'], ending.toList] := by
    rw [← List.singleton_append, Text.split_append_cons, Text.split_of_not_mem (by decide),
      Text.split_of_not_mem fits.1, List.singleton_append]
  rw [extension?, named, Option.bind_some, extensionOfName?, letters, parts]
  simp

end Casebook.Path
