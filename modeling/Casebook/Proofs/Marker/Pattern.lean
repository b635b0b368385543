import Casebook.Proofs.Evaluation
import Casebook.Proofs.Marker.Opening
import Casebook.Proofs.Marker.Search
import Casebook.Proofs.Pattern.Escaped

/-! The pattern for openings, from its text to what it reads. It is read as the expression for
openings whatever characters the marker has, so a search with it finds the leftmost opening.
-/

namespace Casebook.Marker

open Pattern (Expr OpenGroup Piece)

/-- What is read when the lead is. -/
def leadGroup (m : Marker) : OpenGroup where
  flags := {}
  pieces := (m.lead.toList.map Piece.ofChar).reverse

/-- What is read of the group for the delimiter when the class in it is repeated. -/
def delimiterGroup (m : Marker) : OpenGroup where
  flags := {}
  number := some 1
  pieces := [{ expr := m.inDelimiter.repeated 0 none true, depth := 2 }]

/-- What is read when the whole pattern is. -/
def openingGroup (m : Marker) : OpenGroup :=
  ((m.leadGroup.add m.delimiterGroup.close).add (.ofChar m.openBracket)).add
    { expr := .look .textEnd, depth := 0 }

/-- Behind the lead the pattern has the group for the delimiter and what closes it, which are read
in seven rounds.
-/
theorem readGroups_behindLead (m : Marker) (rounds : Nat)
    : Pattern.readGroups (rounds + 7) m.leadGroup [] 0 []
        ("([^".toList ++ (Pattern.escape [m.openBracket] ++ ("]*)".toList
          ++ (Pattern.escape [m.openBracket] ++ ['$']))))
      = .ok m.openingGroup.finish := by
  let inner : OpenGroup := { flags := {}, number := some 1 }
  let closing := Pattern.escape [m.openBracket] ++ ['$']
  calc
    _ = Pattern.readGroups (rounds + 6) inner [m.leadGroup] 1 []
          ('[' :: '^' :: (Pattern.escape [m.openBracket] ++ ']' :: '*' :: ')' :: closing)) := rfl
    _ = Pattern.readGroups (rounds + 5) (inner.add { expr := m.inDelimiter, depth := 1 })
          [m.leadGroup] 1 [] ('*' :: ')' :: closing) :=
        Pattern.readGroups_class rfl m.openBracket _
    _ = Pattern.readGroups (rounds + 3) (m.leadGroup.add m.delimiterGroup.close) [] 1 [] closing :=
        rfl
    _ = Pattern.readGroups (rounds + 2)
          ((m.leadGroup.add m.delimiterGroup.close).add (.ofChar m.openBracket)) [] 1 [] ['$'] :=
        Pattern.readGroups_escape_char rfl m.openBracket ['$']
    _ = .ok m.openingGroup.finish := rfl

/-- The pattern is read to its end, where nothing of the marker means anything but itself. -/
theorem readGroups_openingPattern (m : Marker)
    : Pattern.readGroups (m.openingPattern.toList.length + 1) { flags := {} } [] 0 []
        m.openingPattern.toList
      = .ok m.openingGroup.finish := by
  have text : m.openingPattern.toList
      = Pattern.escape m.lead.toList ++ ("([^".toList ++ (Pattern.escape [m.openBracket]
          ++ ("]*)".toList ++ (Pattern.escape [m.openBracket] ++ ['$'])))) := by
    rw [openingPattern, String.toList_ofList]
    simp only [List.append_assoc]
  have enough : m.lead.toList.length + 6 ≤ m.openingPattern.toList.length := by
    have := Pattern.length_le_length_escape m.lead.toList
    rw [text]
    simp only [List.length_append]
    have : "([^".toList.length = 3 ∧ "]*)".toList.length = 3 := by decide
    omega
  obtain ⟨more, length⟩ := Nat.exists_eq_add_of_le enough
  have rounds : m.openingPattern.toList.length + 1 = (more + 7) + m.lead.toList.length := by omega
  rw [rounds, text, Pattern.readGroups_escape rfl]
  simp only [List.append_nil]
  exact readGroups_behindLead m more

/-- The pieces that are read: one for each character of the lead, and three behind it. -/
def openingPieces (m : Marker) : List Piece :=
  m.lead.toList.map Piece.ofChar
    ++ [m.delimiterGroup.close, .ofChar m.openBracket, { expr := .look .textEnd, depth := 0 }]

/-- The pattern as one piece has all pieces in sequence. -/
theorem finish_openingGroup (m : Marker)
    : m.openingGroup.finish
      = { expr := Expr.sequence (m.openingPieces.map (·.expr))
          depth := 1 + (m.openingPieces.map (·.depth)).foldl max 0 } := by
  have several : 2 ≤ m.openingPieces.length := by
    simp only [openingPieces, List.length_append, List.length_cons]
    omega
  have pieces : m.openingGroup.pieces.reverse = m.openingPieces := by
    simp [openingGroup, openingPieces, leadGroup, OpenGroup.add]
  rw [← Piece.merge_of_two_le several, ← pieces]
  rfl

/-- The pattern as one piece is the expression for openings. A marker without a lead would have no
text there.
-/
theorem expr_openingGroup {m : Marker} (leads : m.lead.toList ≠ [])
    : m.openingGroup.finish.expr = m.openingExpr := by
  have characters : (m.lead.toList.map Piece.ofChar).map (·.expr)
      = m.lead.toList.map fun c => Expr.literal [c] :=
    List.map_map
  rw [finish_openingGroup]
  dsimp only
  rw [openingPieces, List.map_append, characters, Expr.sequence_literals leads]
  rfl

/-- The pattern is nested four times, with the class in the group as its deepest piece. -/
theorem depth_openingGroup (m : Marker)
    : m.openingGroup.finish.depth ≤ Pattern.maxDepth := by
  rw [finish_openingGroup]
  have deepest : ∀ depth ∈ m.openingPieces.map (·.depth), depth ≤ 3 := by
    intro depth deep
    obtain ⟨piece, member, rfl⟩ := List.mem_map.mp deep
    rcases List.mem_append.mp member with character | behind
    · obtain ⟨c, -, rfl⟩ := List.mem_map.mp character
      exact Nat.zero_le 3
    · simp only [List.mem_cons, List.not_mem_nil, or_false] at behind
      rcases behind with rfl | rfl | rfl
      · exact Nat.le_refl 3
      · exact Nat.zero_le 3
      · exact Nat.zero_le 3
  have four := Nat.add_le_add_left (Pattern.foldl_max_le (Nat.zero_le 3) deepest) 1
  exact Nat.le_trans four (by decide)

theorem lead_ne_nil {m : Marker} (sound : m.fault? = none)
    : m.lead.toList ≠ [] := by
  intro empty
  have : m.lead.isEmpty = true := by rw [String.isEmpty_iff, ← String.toList_eq_nil_iff, empty]
  simp [fault?, this] at sound

/-- The pattern of a marker without fault is read as the expression for openings, unless the machine
for it would be too large.
-/
theorem ofText_openingPattern {m : Marker} (sound : m.fault? = none)
    : Pattern.ofText m.openingPattern
      = if m.isTooLarge then .error .tooLarge
        else .ok { text := m.openingPattern, expr := m.openingExpr } := by
  have read := Pattern.ofText_of_readGroups (readGroups_openingPattern m) (depth_openingGroup m)
  rw [expr_openingGroup (lead_ne_nil sound)] at read
  exact read

theorem ofText_openingPattern_default
    : Pattern.ofText ({} : Marker).openingPattern
      = .ok { text := ({} : Marker).openingPattern, expr := ({} : Marker).openingExpr } := by
  rw [ofText_openingPattern rfl, isTooLarge_default]
  rfl

/-- The shared pattern does not escape the bracket in its class, where it means nothing else, and
is read as the pattern of the default marker is.
-/
theorem ofText_sharedPattern
    : Pattern.ofText sharedPattern
      = .ok { text := sharedPattern, expr := ({} : Marker).openingExpr } := by
  have groups
      : Pattern.readGroups (sharedPattern.toList.length + 1) { flags := {} } [] 0 []
          sharedPattern.toList
        = .ok ({} : Marker).openingGroup.finish :=
    rfl
  have read := Pattern.ofText_of_readGroups groups (depth_openingGroup {})
  rw [expr_openingGroup (lead_ne_nil rfl)] at read
  exact read.trans (if_neg (Bool.not_eq_true _ |>.mpr isTooLarge_default))

-----------------------------------------------------------------------------------------
-- The leftmost opening
-----------------------------------------------------------------------------------------

/-- Where the search finds nothing there is no opening at all, by induction on the text. -/
theorem not_opensAfter_of_opening?_eq_none {m : Marker} {before delimiter text : List Char}
    (nothing : m.opening? text = none)
    : ¬ m.OpensAfter before delimiter text := by
  induction text generalizing before with
  | nil => exact not_opensAfter_nil
  | cons c text ih =>
    intro opens
    rw [opening?] at nothing
    cases found : m.delimiterAt? (c :: text) with
    | some first => simp [found] at nothing
    | none =>
      rw [found] at nothing
      have later : before ≠ [] := by
        rintro rfl
        cases found.symm.trans (delimiterAt?_eq_some_iff.mpr opens)
      obtain ⟨after, -, behind⟩ := opens.of_cons later
      exact ih nothing behind

/-- The pattern for openings is read whatever characters its marker has, unless its machine would be
too large, and a search with it reads the delimiter of the leftmost opening that takes the rest of
the text, or nothing where there is no opening. For the default marker the shared pattern does the
same.
-/
theorem search_finds_leftmost {m : Marker} (sound : m.fault? = none)
    : (Pattern.ofText m.openingPattern
        = if m.isTooLarge then .error .tooLarge
          else .ok { text := m.openingPattern, expr := m.openingExpr })
      ∧ (∀ text,
          m.openingExpr.capture? 1 text = m.opening? text
          ∧ (∀ delimiter,
              m.openingExpr.capture? 1 text = some delimiter ↔ m.Opens delimiter text)
          ∧ (m.openingExpr.capture? 1 text = none
              ↔ ∀ before delimiter, ¬ m.OpensAfter before delimiter text))
      ∧ ∃ shared own,
          Pattern.ofText sharedPattern = .ok shared
          ∧ Pattern.ofText ({} : Marker).openingPattern = .ok own
          ∧ ∀ text, shared.expr.capture? 1 text = own.expr.capture? 1 text := by
  refine ⟨ofText_openingPattern sound, fun text => ?_, ?_⟩
  · rw [capture?_openingExpr]
    refine ⟨rfl, fun delimiter => opening?_eq_some_iff, ?_, ?_⟩
    · intro nothing before delimiter
      exact not_opensAfter_of_opening?_eq_none nothing
    · intro none
      rw [Option.eq_none_iff_forall_ne_some]
      intro delimiter found
      obtain ⟨before, opens, -⟩ := opening?_eq_some_iff.mp found
      exact none before delimiter opens
  · exact ⟨_, _, ofText_sharedPattern, ofText_openingPattern_default, fun _ => rfl⟩

/-- A marker of characters that mean something in patterns. -/
def bracketed : Marker where
  lead := "[^"
  openBracket := ']'
  closeBracket := '['

/-- Of the two leads that only delimiters follow, the search takes the one in front. -/
theorem search_finds_leftmost_bracketed
    : bracketed.openingPattern = "\\[\\^([^\\]]*)\\]$"
      ∧ Pattern.ofText bracketed.openingPattern
          = .ok { text := bracketed.openingPattern, expr := bracketed.openingExpr }
      ∧ bracketed.openingExpr.capture? 1 "[^a][^b[^c]".toList = some "b[^c".toList
      ∧ bracketed.openingExpr.capture? 1 "[^a] ".toList = none := by
  have sound : bracketed.fault? = none := rfl
  have small : bracketed.isTooLarge = false := by cbv
  obtain ⟨read, captures, -⟩ := search_finds_leftmost sound
  refine ⟨by decide +kernel, ?_, ?_, ?_⟩
  · rw [small] at read
    exact read
  · rw [(captures _).1]
    decide +kernel
  · rw [(captures _).1]
    decide +kernel

end Casebook.Marker
