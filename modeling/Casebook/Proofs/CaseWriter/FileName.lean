import Casebook.CaseWriter
import Casebook.Proofs.Config.Check
import Casebook.Proofs.Path.Join

/-! The names of numbered files. Different numbers give different names, and with accepted
settings every name is the name of an entry right below the output directory.
-/

namespace Casebook.CaseWriter

/-- What stands behind the number in every name. -/
def suffix (w : CaseWriter) : List Char :=
  if w.extension.isEmpty then [] else '.' :: w.extension.toList

theorem toList_fileName (w : CaseWriter) (index : Nat)
    : (w.fileName index).toList
      = w.stem.toList ++ (Nat.toDigits 10 index ++ w.suffix) := by
  unfold fileName suffix
  split <;> simp

/-- Different numbers give different names, since a number is read back from its digits. -/
theorem fileName_injective (w : CaseWriter) {i j : Nat} (same : w.fileName i = w.fileName j)
    : i = j := by
  have texts := congrArg String.toList same
  rw [toList_fileName, toList_fileName] at texts
  have digits : Nat.toDigits 10 i = Nat.toDigits 10 j :=
    List.append_cancel_right (List.append_cancel_left texts)
  have numbers := congrArg (Nat.ofDigitChars 10 · 0) digits
  simpa only [Nat.ofDigitChars_ten_toDigits] using numbers

/-- A name is no text without digits, since it holds the first digit of its number. -/
theorem fileName_ne (w : CaseWriter) (index : Nat) {other : String}
    (noDigit : ∀ c ∈ other.toList, c.isDigit = false)
    : w.fileName index ≠ other := by
  rintro rfl
  obtain ⟨c, more, digits⟩ := List.exists_cons_of_ne_nil (Nat.toDigits_ne_nil (n := index) (b := 10))
  have inNumber : c ∈ Nat.toDigits 10 index := digits ▸ List.mem_cons_self
  have inName : c ∈ (w.fileName index).toList := by
    rw [toList_fileName]
    exact List.mem_append_right _ (List.mem_append_left _ inNumber)
  have isDigit := Nat.isDigit_of_mem_toDigits (by decide) (by decide) inNumber
  rw [noDigit c inName] at isDigit
  cases isDigit

/-- Where neither the stem nor the extension holds a separator or a control, no name holds a
separator or a NUL, since neither is a digit or the dot before the extension.
-/
theorem ne_of_mem_fileName {w : CaseWriter} (stem : Text.IsPlain w.stem)
    (extension : Text.IsPlain w.extension) {index : Nat} {c : Char}
    (member : c ∈ (w.fileName index).toList)
    : c ≠ '/' ∧ c ≠ '\x00' := by
  rw [toList_fileName, List.mem_append, List.mem_append] at member
  rcases member with inStem | inNumber | inSuffix
  · exact stem.ne inStem
  · have isDigit := Nat.isDigit_of_mem_toDigits (by decide) (by decide) inNumber
    constructor <;> rintro rfl <;> cases isDigit
  · unfold suffix at inSuffix
    split at inSuffix
    next => cases inSuffix
    next =>
      rcases List.mem_cons.mp inSuffix with rfl | inExtension
      · decide
      · exact extension.ne inExtension

/-- Every file of the writer can be named. -/
def NamesFiles (w : CaseWriter) : Prop :=
  ∀ index, Tree.isName (w.fileName index) = true

/-- Files can be named where neither the stem nor the extension holds a separator or a control.
The number keeps a name from being empty, a dot or two dots.
-/
theorem namesFiles_of_isPlain {w : CaseWriter} (stem : Text.IsPlain w.stem)
    (extension : Text.IsPlain w.extension)
    : w.NamesFiles := by
  intro index
  have nonempty : (w.fileName index).isEmpty = false := by
    rw [Bool.eq_false_iff, ne_eq, String.isEmpty_iff]
    exact w.fileName_ne index (by simp)
  have notHere : w.fileName index ≠ "." := w.fileName_ne index (by simp)
  have notUp : w.fileName index ≠ ".." := w.fileName_ne index (by simp)
  simp only [Tree.isName, nonempty, Bool.not_false, Bool.true_and, Bool.and_eq_true,
    List.all_eq_true, decide_eq_true_eq]
  exact ⟨⟨fun c member => ne_of_mem_fileName stem extension member, notHere⟩, notUp⟩

/-- With accepted settings all files can be named. -/
theorem namesFiles_of_check {c : Config} {t : Tree} (accepted : c.check t = .ok ())
    (dryRun : Bool)
    : (CaseWriter.ofSettings c.output dryRun).NamesFiles := by
  obtain ⟨-, -, -, noFault, notBad, -⟩ := Config.check_eq_ok_iff.mp accepted
  exact namesFiles_of_isPlain (StemFault.isPlain noFault) (Config.isPlain_extension notBad)

/-- Paths of numbers that end at no link lead to entries of their own, each with the file name of
its number.
-/
theorem NamesFiles.destination?_injective {w : CaseWriter} (names : w.NamesFiles) {t : Tree}
    {i j : Nat} {q : Tree.Location}
    (firstLink : t.isLink (w.casePath i) = false) (secondLink : t.isLink (w.casePath j) = false)
    (first : t.destination? (w.casePath i) = some q)
    (second : t.destination? (w.casePath j) = some q)
    : i = j := by
  have named (index : Nat) (noLink : t.isLink (w.casePath index) = false)
      (leads : t.destination? (w.casePath index) = some q)
      : ∃ above, q = ⟨_, names index⟩ :: above :=
    Tree.destination?_ending (Tree.getLast?_steps_join w.directory ⟨_, names index⟩) noLink leads
  obtain ⟨_, here⟩ := named i firstLink first
  obtain ⟨_, there⟩ := named j secondLink second
  rw [here, List.cons.injEq, Tree.Name.mk.injEq] at there
  exact w.fileName_injective there.1

end Casebook.CaseWriter
