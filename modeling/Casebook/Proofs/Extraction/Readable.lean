import Casebook.Proofs.Console.Sayings
import Casebook.Proofs.Evaluation
import Casebook.Proofs.Extraction.Lockstep
import Casebook.Proofs.Extraction.Tellings

/-! Runs that print JSON. What such a run prints is read back as what it had to tell, and a run that
succeeds ends with an object that is read as its report, if all paths in that are texts.
-/

namespace Casebook

namespace Extraction

variable {e : Extraction} {t : Tree} {root : String} {clock : Clock} {report : Report}

end Extraction

end Casebook
