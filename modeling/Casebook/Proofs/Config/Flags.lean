import Casebook.CaseWriter
import Casebook.Filter
import Casebook.Proofs.Path.Extension
import Casebook.Proofs.Text.Lowercase

/-! Extensions in a file and on a command line. Either way those of sources lose the dots in front
of them and their case. A command line also trims them and drops those that are empty then, and so
the two filters accept the same paths as long as nothing of that makes a difference to a name.
-/

namespace Casebook

-----------------------------------------------------------------------------------------
-- Filters by extension
-----------------------------------------------------------------------------------------

namespace Filter

/-- The ending is listed, in lower case. -/
def Lists (f : Filter) (ending : String) : Prop :=
  String.ofList (Text.lowercase ending.toList) ∈ f.extensions

/-- Where no pattern excludes anything, a source has an extension that is listed, or none is. -/
theorem isSource_iff {f : Filter} (noPattern : f.excludePatterns = []) {path : String}
    : f.isSource path = true
      ↔ f.extensions = [] ∨ ∃ ending, Path.extension? path = some ending ∧ f.Lists ending := by
  have excludesNone : f.excludes path = false := by rw [excludes, noPattern, List.any_nil]
  unfold isSource
  rw [if_neg (Bool.eq_false_iff.mp excludesNone)]
  cases found : Path.extension? path <;>
    simp [Lists]

/-- Two filters without patterns accept the same paths just when they list the same of what can be
an extension, and both or none of them list nothing.
-/
theorem isSource_alike_iff {f g : Filter} (noPattern : f.excludePatterns = [])
    (noPattern' : g.excludePatterns = [])
    : (∀ path, f.isSource path = g.isSource path)
      ↔ (f.extensions = [] ↔ g.extensions = [])
        ∧ ∀ ending, Path.IsEnding ending → (f.Lists ending ↔ g.Lists ending) := by
  simp only [Bool.eq_iff_iff, isSource_iff noPattern, isSource_iff noPattern']
  constructor
  · intro alike
    have empty : f.extensions = [] ↔ g.extensions = [] := by
      have none : Path.extension? "a" = none := by decide
      simpa only [none, reduceCtorEq, false_and, exists_false, or_false] using alike "a"
    refine ⟨empty, fun ending fits => ?_⟩
    have same := alike ("a." ++ ending)
    simp only [Path.extension?_of_isEnding fits, Option.some.injEq, exists_eq_left'] at same
    by_cases all : f.extensions = []
    · rw [Lists, Lists, all, empty.mp all]
    · simpa only [all, mt empty.mpr all, false_or] using same
  · rintro ⟨empty, same⟩ path
    refine or_congr empty (exists_congr fun ending => and_congr_right fun found => ?_)
    exact same ending (Path.isEnding_of_extension? found)

end Filter

-----------------------------------------------------------------------------------------
-- Extensions on a command line
-----------------------------------------------------------------------------------------

namespace Overrides

/-- There are no blanks around the extension that a command line could trim, and something is left
of it without the dots in front.
-/
def TakesWhole (given : String) : Prop :=
  Text.trim given.toList = given.toList ∧ Text.withoutDots given.toList ≠ []

instance (given : String)
    : Decidable (TakesWhole given) :=
  inferInstanceAs (Decidable (_ ∧ _))

/-- A filter leaves the plain form of an extension as it is. -/
theorem lowercase_plainExtension (given : String)
    : String.ofList (Text.lowercase (Text.withoutDots (plainExtension given).toList))
      = plainExtension given := by
  rw [plainExtension, String.toList_ofList, Text.withoutDots_lowercase (Text.head?_withoutDots _),
    Text.lowercase_lowercase]

end Overrides

namespace Config

/-- The default settings with extensions of sources and of outputs as a file has them. -/
def written (extensions : List String) (extension : String) : Config where
  scan := { extensions := extensions }
  output := { extension := extension }

/-- The default settings under a command line with extensions of sources and of outputs. -/
def flagged (extensions : List String) (extension : String) : Config :=
  ({} : Config).overlay { extensions := some extensions, extension := some extension }

/-- The filter of sources that the settings ask for. -/
def filter (c : Config) : Filter :=
  Filter.ofSettings c.scan

/-- The name of the file with a number under the settings. -/
def fileName (c : Config) (dryRun : Bool) (index : Nat) : String :=
  (CaseWriter.ofSettings c.output dryRun).fileName index

section

variable (extensions : List String) (extension : String)

/-- A filter lists what a command line leaves of its extensions, and changes nothing about it. -/
theorem extensions_flagged
    : (flagged extensions extension).filter.extensions
      = (extensions.map Overrides.plainExtension).filter (!·.isEmpty) := by
  have same
      : ∀ form ∈ (extensions.map Overrides.plainExtension).filter (!·.isEmpty),
          String.ofList (Text.lowercase (Text.withoutDots form.toList)) = form := by
    intro form member
    obtain ⟨given, -, rfl⟩ := List.mem_map.mp (List.mem_of_mem_filter member)
    exact Overrides.lowercase_plainExtension given
  exact (List.map_congr_left same).trans (List.map_id' _)

variable {extensions}

/-- Extensions that a command line takes whole make the filter that they make in a file. -/
theorem extensions_flagged_of_takesWhole
    (whole : ∀ given ∈ extensions, Overrides.TakesWhole given)
    : (flagged extensions extension).filter.extensions
      = (written extensions extension).filter.extensions := by
  have same
      : extensions.map Overrides.plainExtension
        = (written extensions extension).filter.extensions := by
    refine List.map_congr_left fun given member => ?_
    rw [Overrides.plainExtension, (whole given member).1]
  rw [extensions_flagged, same, List.filter_eq_self]
  intro form member
  obtain ⟨given, inList, rfl⟩ := List.mem_map.mp member
  rw [Bool.not_eq_true', ← Bool.not_eq_true, String.isEmpty_iff, ← String.toList_eq_nil_iff,
    String.toList_ofList, Text.lowercase_eq_nil_iff]
  exact (whole given inList).2

/-- An output extension without dots in front is the same on a command line and in a file. -/
theorem fileName_flagged {extension : String} (noDot : extension.toList.head? ≠ some '.')
    (dryRun : Bool) (index : Nat)
    : (flagged extensions extension).fileName dryRun index
      = (written extensions extension).fileName dryRun index := by
  have same : (flagged extensions extension).output = (written extensions extension).output :=
    calc (flagged extensions extension).output
      _ = { extension := String.ofList (Text.withoutDots extension.toList) } := rfl
      _ = (written extensions extension).output := by
        rw [Text.withoutDots_of_head? noDot, String.ofList_toList, written]
  rw [fileName, fileName, same]

end

/-- Extensions in a file and on a command line accept the same paths just when the command line
leaves some of a list that is not empty, and both list the same of what can be an extension. They do
where a command line takes every one of them whole. The files written have the same names where the
output extension has no dots in front.
-/
theorem flagged_alike (extensions : List String) (extension : String)
    : ((∀ path,
          (written extensions extension).filter.isSource path
          = (flagged extensions extension).filter.isSource path)
        ↔ ((flagged extensions extension).filter.extensions = [] → extensions = [])
          ∧ ∀ ending, Path.IsEnding ending →
              ((written extensions extension).filter.Lists ending
                ↔ (flagged extensions extension).filter.Lists ending))
      ∧ ((∀ given ∈ extensions, Overrides.TakesWhole given) →
          ∀ path,
            (written extensions extension).filter.isSource path
            = (flagged extensions extension).filter.isSource path)
      ∧ (extension.toList.head? ≠ some '.' →
          ∀ dryRun index,
            (written extensions extension).fileName dryRun index
            = (flagged extensions extension).fileName dryRun index) := by
  have none : (written extensions extension).filter.extensions = [] ↔ extensions = [] :=
    List.map_eq_nil_iff
  have emptied (empty : extensions = [])
      : (flagged extensions extension).filter.extensions = [] := by
    rw [extensions_flagged, empty, List.map_nil, List.filter_nil]
  have alike :=
    Filter.isSource_alike_iff (f := (written extensions extension).filter)
      (g := (flagged extensions extension).filter) rfl rfl
  rw [none] at alike
  refine ⟨alike.trans (and_congr_left' ⟨Iff.mpr, fun back => ⟨emptied, back⟩⟩), ?_, ?_⟩
  · intro whole
    have same := extensions_flagged_of_takesWhole extension whole
    refine alike.mpr ⟨by rw [same, none], fun ending _ => ?_⟩
    simp only [Filter.Lists, same]
  · intro noDot dryRun index
    exact (fileName_flagged noDot dryRun index).symm

/-- An upper case extension and one with a dot in front make no difference. -/
theorem flagged_alike_cpp_h
    : (∀ path,
        (written ["CPP", ".h"] "txt").filter.isSource path
        = (flagged ["CPP", ".h"] "txt").filter.isSource path)
      ∧ ∀ dryRun index,
          (written ["CPP", ".h"] "txt").fileName dryRun index
          = (flagged ["CPP", ".h"] "txt").fileName dryRun index :=
  ⟨(flagged_alike ["CPP", ".h"] "txt").2.1 (by decide),
    (flagged_alike ["CPP", ".h"] "txt").2.2 (by decide)⟩

/-- A blank before an extension of sources makes a difference, and so does a dot before that of
outputs.
-/
theorem not_flagged_alike
    : (¬ ∀ (extensions : List String) (extension path : String),
          (written extensions extension).filter.isSource path
          = (flagged extensions extension).filter.isSource path)
      ∧ ¬ ∀ (extensions : List String) (extension : String) (index : Nat),
            (written extensions extension).fileName false index
            = (flagged extensions extension).fileName false index := by
  constructor
  · intro alike
    have blank : (written [" cpp"] "sol").filter.isSource "a.cpp" = false := by decide
    have trimmed : (flagged [" cpp"] "sol").filter.isSource "a.cpp" = true := by decide
    rw [alike, trimmed] at blank
    cases blank
  · intro alike
    have dotted : (written [] ".sol").fileName false 0 = "test0..sol" := by decide
    have plain : (flagged [] ".sol").fileName false 0 = "test0.sol" := by decide
    rw [alike, plain] at dotted
    exact absurd dotted (by decide)

end Config

end Casebook
