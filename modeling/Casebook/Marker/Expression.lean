import Casebook.Marker
import Casebook.Pattern.Escape
import Casebook.Pattern.Machine

/-! The opening of a literal as a pattern and as an expression. Lines are searched for it, so a
marker whose lead is too long for a machine cannot be used.
-/

namespace Casebook.Marker

open Pattern (Expr)

/-- The pattern for what a line that opens a literal ends with. The lead and the open bracket are
escaped, the bracket in a class too.
-/
def openingPattern (m : Marker) : String :=
  let openBracket := Pattern.escape [m.openBracket]
  String.ofList
    (Pattern.escape m.lead.toList ++ "([^".toList ++ openBracket ++ "]*)".toList ++ openBracket
      ++ ['$'])

/-- The pattern that all scans for the default marker share. -/
def sharedPattern : String := "R\"([^(]*)\\($"

/-- What a line that opens a literal ends with: the lead, a delimiter in a group, and the open
bracket.
-/
def openingExpr (m : Marker) : Expr :=
  let inDelimiter := Expr.ofSet (Unicode.CodeSet.ofChar m.openBracket).complement
  .sequence
    [.literal m.lead.toList, .group 1 (inDelimiter.repeated 0 none true),
      .literal [m.openBracket], .look .textEnd]

/-- The machine that looks for openings is too large. -/
def isTooLarge (m : Marker) : Bool :=
  m.openingExpr.isTooLarge

end Casebook.Marker
