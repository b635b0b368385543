import Casebook.Proofs.Collector.Stopped
import Casebook.Proofs.Extraction.Contents
import Casebook.Proofs.Extraction.Course

/-! What a run leaves behind when it fails. It changes nothing before it makes the output directory
and writes no case before that is made; from then on it leaves the cases of all literals in front
of what stopped it, whole and without a gap, and nothing else.
-/

namespace Casebook.Extraction

/-- As things stand in a tree, the paths of so many cases numbered from `first` on lead to no
source, and no two of them to the same place.
-/
structure Apart (e : Extraction) (t : Tree) (listing : Listing) (first count : Nat) : Prop where
  sources
    : ∀ n < count, ∀ file ∈ listing.files,
        t.isSame (e.writer.casePath (CaseNumber.after first n)) file.path = false
  places
    : ∀ i j, i < j → j < count → ∀ q,
        t.destination? (e.writer.casePath (CaseNumber.after first i)) = some q →
        t.destination? (e.writer.casePath (CaseNumber.after first j)) ≠ some q

variable {e : Extraction} {t : Tree} {root : String} {clock : Clock} {listing : Listing}

/-- Cases that are separate from sources and links are apart, if their files can be named and none
of their numbers is too great for a word.
-/
theorem Separate.apart (names : e.writer.NamesFiles) {first count : Nat}
    (separate : e.Separate t listing first (first + count))
    (fits : first + count < CaseNumber.bound)
    : e.Apart t listing first count where
  sources n inRange := (separate.after fits inRange).1
  places i j before upTo q leads same := by
    have firstLink := (separate.after fits (Nat.lt_trans before upTo)).2
    have secondLink := (separate.after fits upTo).2
    have sameNumber := names.destination?_injective firstLink secondLink leads same
    exact CaseNumber.after_ne before (by omega) sameNumber

/-- The settings of a run that does not skip what is no text. -/
def unforgiving : Config where
  output := { directory := "out" }

end Casebook.Extraction
