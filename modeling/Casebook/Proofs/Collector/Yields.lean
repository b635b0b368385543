import Casebook.Proofs.Collector.Written

/-! What each source adds to a run. The cases of a run are those of its sources, one source after
the other, and each names the source that it was found in.
-/

namespace Casebook.Collector

variable {k : Collector} {s : Collecting} {p : Progress} {counter : Nat}

end Casebook.Collector
