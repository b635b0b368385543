import Casebook.Marker.Expression
import Casebook.Proofs.Pattern.Ways

/-! The search for an opening goes the way of its expression. The first way of the expression from
any place reads what is a delimiter there, so a search with it reads the delimiter of the leftmost
opening.
-/

namespace Casebook.Marker

open Pattern (Expr Way)

/-- The characters that a delimiter is made of. -/
def inDelimiter (m : Marker) : Expr :=
  .ofSet (Unicode.CodeSet.ofChar m.openBracket).complement

/-- The parts of an opening one behind the other, as the normal form of a sequence has them. -/
theorem openingExpr_eq (m : Marker)
    : m.openingExpr
      = .seq (.literal m.lead.toList)
          (.seq (.group 1 (.rep m.inDelimiter 0 none true))
            (.seq (.literal [m.openBracket]) (.look .textEnd))) := by
  unfold openingExpr
  dsimp only
  rw [Expr.repeated_ofSet]
  rfl

/-- A delimiter is made of all characters but the open bracket. -/
theorem ways_inDelimiter (m : Marker) (w : Way)
    : m.inDelimiter.ways w = w.readOne fun c => decide (c ≠ m.openBracket) := by
  have proper := Unicode.CodeSet.complement_spec (Unicode.CodeSet.proper_ofChar m.openBracket)
  have held (c : Char)
      : (Unicode.CodeSet.ofChar m.openBracket).complement.contains c.toNat
        = decide (c ≠ m.openBracket) := by
    rw [proper.2 c.toNat (Unicode.CodeSet.toNat_le_maxCode c), Unicode.CodeSet.contains_ofChar,
      decide_not]
  rw [inDelimiter, Expr.ways_ofSet proper.1, funext held]

/-- The bracket at the end of the text is read where nothing else is left. -/
theorem groups_ways_closing (b : Char) (w : Way)
    : (((Expr.seq (.literal [b]) (.look .textEnd)).ways w).map Way.groups)
      = if w.left = [b] then [w.groups] else [] := by
  simp only [Expr.ways, Way.readAll, List.flatMap_singleton']
  cases left : w.left with
  | nil => simp [Way.readOne_nil left]
  | cons c rest =>
    rw [Way.readOne_cons left]
    by_cases same : c = b
    · cases rest <;> simp [same, Pattern.Look.holds]
    · simp [same]

/-- Behind the lead there is a way where a delimiter and the bracket take all that is left. -/
theorem groups_ways_behindLead (m : Marker) (w : Way)
    : (((Expr.seq (.group 1 (.rep m.inDelimiter 0 none true))
            (.seq (.literal [m.openBracket]) (.look .textEnd))).ways w).map Way.groups)
      = if w.left.getLast? = some m.openBracket ∧ m.openBracket ∉ w.left.dropLast then
          [(1, w.left.dropLast) :: w.groups]
        else [] := by
  have repeats
      : (Expr.rep m.inDelimiter 0 none true).ways w
        = Pattern.stepsAfter m.inDelimiter.ways true w.left.length w :=
    Pattern.orStay_stepsFrom (ways_inDelimiter m) w
  have closes (after : Way)
      : (((Expr.seq (.literal [m.openBracket]) (.look .textEnd)).ways
            { after with groups := (1, w.upTo after) :: after.groups }).map Way.groups)
        = (if after.left = [m.openBracket] then [after.groups] else []).map
            ((1, w.left.dropLast) :: ·) := by
    rw [groups_ways_closing]
    by_cases last : after.left = [m.openBracket]
    · rw [if_pos last, if_pos last, Way.upTo, last, List.dropLast_eq_take]
      rfl
    · rw [if_neg last, if_neg last]
      rfl
  rw [Expr.ways, Expr.ways, repeats, List.flatMap_map, List.map_flatMap]
  simp only [closes]
  rw [← List.map_flatMap, Pattern.stepsAfter_readOne (ways_inDelimiter m)
    (fun c => decide_eq_true_iff) (Nat.le_refl _)]
  split <;> rfl

/-- What the ways of the expression read for the delimiter: it is what stands for one there, and
there is a single way at most.
-/
theorem groups_ways_openingExpr (m : Marker) (w : Way)
    : (m.openingExpr.ways w).map Way.groups
      = ((m.delimiterAt? w.left).map fun delimiter => (1, delimiter) :: w.groups).toList := by
  rw [openingExpr_eq, Expr.ways, Expr.ways]
  by_cases leads : m.lead.toList <+: w.left
  · obtain ⟨rest, left⟩ := leads
    obtain ⟨before, reads⟩ := Way.readAll_append left.symm
    have found
        : m.delimiterAt? w.left
          = if rest.getLast? = some m.openBracket ∧ m.openBracket ∉ rest.dropLast then
              some rest.dropLast
            else none := by
      rw [delimiterAt?, ← left, if_pos (List.isPrefixOf_iff_prefix.mpr (List.prefix_append _ _)),
        List.drop_left]
    rw [reads, List.flatMap_singleton, groups_ways_behindLead, found]
    split <;> rfl
  · rw [Way.readAll_of_not_prefix leads, delimiterAt?,
      if_neg fun begins => leads (List.isPrefixOf_iff_prefix.mp begins)]
    rfl

/-- A search goes the way of the leftmost opening, by induction on the text. -/
theorem groups_find?_openingExpr (m : Marker) (before : Option Char) (text : List Char)
    : (m.openingExpr.find? before text).map Way.groups
      = (m.opening? text).map fun delimiter => [(1, delimiter)] := by
  induction text generalizing before with
  | nil =>
    rw [Expr.find?, opening?, ← List.head?_map, groups_ways_openingExpr, Option.head?_toList]
  | cons c rest ih =>
    have here := groups_ways_openingExpr m { before := before, left := c :: rest }
    rw [Expr.find?, opening?]
    cases found : m.delimiterAt? (c :: rest) with
    | some delimiter =>
      rw [found] at here
      obtain ⟨way, ways, groups⟩ := List.map_eq_singleton_iff.mp here
      rw [ways, List.head?_cons, Option.map_some, Option.map_some, groups]
    | none =>
      rw [found] at here
      rw [List.map_eq_nil_iff.mp here, List.head?_nil]
      exact ih (some c)

/-- The group that a search with the expression reads is what the search for an opening finds. -/
theorem capture?_openingExpr (m : Marker) (text : List Char)
    : m.openingExpr.capture? 1 text = m.opening? text := by
  calc
    m.openingExpr.capture? 1 text
      = ((m.openingExpr.find? none text).map Way.groups).bind (List.lookup 1) :=
        Option.bind_map.symm
    _ = ((m.opening? text).map fun delimiter => [(1, delimiter)]).bind (List.lookup 1) := by
        rw [groups_find?_openingExpr]
    _ = m.opening? text := by
        cases m.opening? text <;> rfl

end Casebook.Marker
