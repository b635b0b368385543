import Mathlib.Data.List.Basic
import Casebook.Path
import Casebook.Proofs.Text.Split

/-! The directories above a path. Each of them has the first components of the path and no others.
-/

namespace Casebook.Path

namespace Component

/-- The component can stand behind another one: it is what its own text is read as. -/
def IsInner (c : Component) : Prop :=
  '/' ∉ c.text.toList ∧ ofPart? c.text.toList = some c

theorem text_of_ofPart? {part : List Char} {c : Component} (read : ofPart? part = some c)
    : c.text.toList = part := by
  unfold ofPart? at read
  split at read
  next => cases read
  next =>
    split at read
    next up =>
      cases read
      exact up.symm
    next =>
      cases read
      exact String.toList_ofList

/-- What is read of a part of a path can stand behind another component. -/
theorem isInner_of_ofPart? {path part : List Char} {c : Component}
    (member : part ∈ Text.split '/' path) (read : ofPart? part = some c)
    : c.IsInner := by
  have same := text_of_ofPart? read
  exact ⟨same ▸ Text.not_mem_of_mem_split member, same ▸ read⟩

/-- The component can come first. -/
def IsStart (c : Component) : Prop :=
  c = .root ∨ c = .here ∨ c.IsInner

end Component

/-- The components are those of some path: the root and the dot come first only. -/
def AreOfPath : List Component → Prop
  | [] => True
  | first :: rest => first.IsStart ∧ ∀ c ∈ rest, c.IsInner

theorem AreOfPath.take {cs : List Component} (ofPath : AreOfPath cs) (count : Nat)
    : AreOfPath (cs.take count) := by
  cases cs with
  | nil =>
    rw [List.take_nil]
    trivial
  | cons first rest =>
    cases count with
    | zero => trivial
    | succ count => exact ⟨ofPath.1, fun c member => ofPath.2 c (List.mem_of_mem_take member)⟩

theorem areOfPath_components (path : String)
    : AreOfPath (components path) := by
  obtain ⟨first, rest, parts⟩ := List.exists_cons_of_ne_nil (Text.split_ne_nil '/' path.toList)
  have inner {part : List Char} {c : Component} (member : part ∈ first :: rest)
      (read : Component.ofPart? part = some c)
      : c.IsInner :=
    Component.isInner_of_ofPart? (parts ▸ member) read
  have behind : ∀ c ∈ rest.filterMap Component.ofPart?, c.IsInner := by
    intro c member
    obtain ⟨part, listed, read⟩ := List.mem_filterMap.mp member
    exact inner (List.mem_cons_of_mem first listed) read
  rw [components, parts]
  dsimp only
  split
  next => exact ⟨.inl rfl, behind⟩
  next =>
    split
    next => exact ⟨.inr (.inl rfl), behind⟩
    next =>
      -- A path may begin with a separator or a dot that has no component.
      cases read : Component.ofPart? first with
      | some c => exact ⟨.inr (.inr (inner List.mem_cons_self read)), behind⟩
      | none =>
        rw [Option.toList_none, List.nil_append]
        cases found : rest.filterMap Component.ofPart? with
        | nil => trivial
        | cons c more =>
          rw [found] at behind
          exact ⟨.inr (.inr (behind c List.mem_cons_self)),
            fun other member => behind other (List.mem_cons_of_mem c member)⟩

private theorem toList_intercalate_texts (cs : List Component)
    : (String.intercalate "/" (cs.map Component.text)).toList
      = ['/'].intercalate (cs.map (·.text.toList)) := by
  rw [String.toList_intercalate, List.map_map]
  rfl

theorem filterMap_texts {cs : List Component} (inner : ∀ c ∈ cs, c.IsInner)
    : (cs.map (·.text.toList)).filterMap Component.ofPart? = cs := by
  rw [List.filterMap_map]
  calc cs.filterMap _
    _ = cs.filterMap some := List.filterMap_congr fun c member => (inner c member).2
    _ = cs := List.filterMap_some

/-- Behind the root stand the texts of the other components, with separators between them. -/
private theorem components_root {rest : List Component} (inner : ∀ c ∈ rest, c.IsInner)
    : components (ofComponents (.root :: rest)) = .root :: rest := by
  have texts
      : (ofComponents (.root :: rest)).toList
        = '/' :: ['/'].intercalate (rest.map (·.text.toList)) := by
    rw [ofComponents, String.toList_append, toList_intercalate_texts]
    rfl
  rw [components, texts, Text.split_cons_separator]
  cases rest with
  | nil => rfl
  | cons next more =>
    have clean : ∀ part ∈ (next :: more).map (·.text.toList), '/' ∉ part := by
      intro part member
      obtain ⟨c, listed, rfl⟩ := List.mem_map.mp member
      exact (inner c listed).1
    have some : (next :: more).map (·.text.toList) ≠ [] := List.cons_ne_nil _ _
    rw [Text.split_intercalate some clean]
    simp only [some, ne_eq, not_false_eq_true, and_self, if_true, Option.toList_some,
      filterMap_texts inner, List.singleton_append]

/-- A path that is put together from components has these components. -/
theorem components_ofComponents {cs : List Component} (ofPath : AreOfPath cs)
    : components (ofComponents cs) = cs := by
  cases cs with
  | nil => rfl
  | cons first rest =>
    obtain ⟨start, inner⟩ := ofPath
    by_cases isRoot : first = .root
    · rw [isRoot]
      exact components_root inner
    have texts
        : (ofComponents (first :: rest)).toList
          = ['/'].intercalate ((first :: rest).map (·.text.toList)) := by
      rw [← toList_intercalate_texts]
      cases first with
      | root => exact absurd rfl isRoot
      | here => rfl
      | up => rfl
      | name => rfl
    have clean : ∀ part ∈ (first :: rest).map (·.text.toList), '/' ∉ part := by
      intro part member
      obtain ⟨c, listed, rfl⟩ := List.mem_map.mp member
      rcases List.mem_cons.mp listed with rfl | later
      · rcases start with rfl | rfl | ⟨clean, -⟩
        · exact absurd rfl isRoot
        · decide
        · exact clean
      · exact (inner c later).1
    have some : (first :: rest).map (·.text.toList) ≠ [] := List.cons_ne_nil _ _
    rw [components, texts, Text.split_intercalate some clean]
    simp only [List.map_cons, filterMap_texts inner]
    rcases start with rfl | rfl | ⟨-, read⟩
    · exact absurd rfl isRoot
    · rfl
    · -- What is read of a part is not read of nothing or of a dot.
      have notNone : first.text.toList ≠ [] := by
        intro none
        rw [none] at read
        cases read
      have notHere : first.text.toList ≠ ['.'] := by
        intro here
        rw [here] at read
        cases read
      simp only [notNone, notHere, false_and, if_false, read, Option.toList_some,
        List.singleton_append]

end Casebook.Path
