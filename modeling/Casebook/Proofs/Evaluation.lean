import Mathlib
import Casebook.Extraction

/-! What results at single inputs are stated with: small trees, runs of which only the settings
matter, and operations that may fail, of whose result a part is compared.
-/

namespace Casebook

/-- A tree whose entries stand right below its top. A text that cannot be a name has no entry. -/
def Tree.ofTop (entries : List (String × Tree.Entry)) : Tree where
  entries := entries.filterMap fun (text, entry) => (Tree.Name.ofText? text).map ([·], entry)

/-- The tree with one more entry in a directory right below its top. -/
def Tree.withEntry (t : Tree) (directory text : String) (entry : Tree.Entry) : Tree :=
  match Tree.Name.ofText? directory, Tree.Name.ofText? text with
  | some d, some n => t.insert [n, d] entry
  | _, _ => t

/-- The real run with some settings, however it prints. -/
def Extraction.ofSettings (c : Config) : Extraction where
  config := c
  console := default

/-- An operation succeeds if something is known of its result. -/
theorem exists_ok_of_toOption {ε α β : Type} {x : Except ε α} {part : α → β} {b : β}
    (known : x.toOption.map part = some b)
    : ∃ a, x = .ok a ∧ part a = b := by
  cases x with
  | error failure => cases known
  | ok a => exact ⟨a, rfl, Option.some.inj known⟩

/-- An operation that gives a known result succeeds with it. -/
theorem eq_ok_of_toOption {ε α : Type} {x : Except ε α} {a : α} (known : x.toOption = some a)
    : x = .ok a := by
  cases x with
  | error failure => cases known
  | ok b => exact congrArg Except.ok (Option.some.inj known)

/-- The machine for the marker that settings start from is small enough. -/
theorem Marker.isTooLarge_default
    : ({} : Marker).isTooLarge = false := by
  cbv

/-- The marker that settings start from can be used. -/
theorem Marker.checkSearch_default
    : ({} : Marker).checkSearch = .ok () := by
  rw [checkSearch, isTooLarge_default]
  rfl

end Casebook
