import Mathlib.Data.Nat.Bitwise
import Casebook.Unicode.CaseMap

/-! Where case maps send code points. A map whose images are none of the code points that it sends
elsewhere is the same when it is used twice, and that of lowercase forms is such a map.
-/

namespace Casebook.Unicode

-----------------------------------------------------------------------------------------
-- Sets of code points as bits of a number
-----------------------------------------------------------------------------------------

/-- The number whose bits are set at some code points. -/
def bits (codes : List Nat) : Nat :=
  codes.foldr (fun code set => set ||| 1 <<< code) 0

/-- The bits that are set are those of the code points, by induction on them. -/
theorem testBit_bits (codes : List Nat) (code : Nat)
    : (bits codes).testBit code = decide (code ∈ codes) := by
  induction codes with
  | nil => simp [bits]
  | cons first rest ih =>
    rw [bits, List.foldr_cons, ← bits, Nat.testBit_or, ih, Nat.one_shiftLeft, Nat.testBit_two_pow]
    simp [Bool.or_comm, eq_comm]

/-- Code points whose numbers have no bit in common have no member in common. -/
theorem disjoint_of_bits {codes others : List Nat} (apart : bits codes &&& bits others = 0)
    : codes.Disjoint others := by
  intro code member other
  have bit := congrArg (Nat.testBit · code) apart
  simp [testBit_bits, member, other] at bit

-----------------------------------------------------------------------------------------
-- Runs
-----------------------------------------------------------------------------------------

/-- The pairs of a run hold every code point that it sends elsewhere, with its image. -/
theorem CaseRun.mem_pairs_of_image? {r : CaseRun} {code image : Nat}
    (sent : r.image? code = some image)
    : (code, image) ∈ r.pairs := by
  rw [image?, Option.ite_none_right_eq_some] at sent
  obtain ⟨⟨least, most, even⟩, same⟩ := sent
  have steps : (code - r.first) / r.stride * r.stride = code - r.first :=
    Nat.div_mul_cancel (Nat.dvd_of_mod_eq_zero even)
  refine List.mem_map.mpr ⟨(code - r.first) / r.stride, ?_, ?_⟩
  · rw [List.mem_range, Nat.lt_succ_iff]
    exact Nat.div_le_div_right (Nat.sub_le_sub_right most r.first)
  · rw [steps, Nat.add_sub_cancel' least, Option.some.inj same]

/-- A code point stays where it is, or some run holds it with its image. -/
theorem mapThrough_eq_or_mem (runs : List CaseRun) (code : Nat)
    : mapThrough runs code = code ∨ (code, mapThrough runs code) ∈ runs.flatMap CaseRun.pairs := by
  unfold mapThrough
  cases found : runs.findSome? (·.image? code) with
  | none => exact .inl rfl
  | some image =>
    obtain ⟨r, member, sent⟩ := List.exists_of_findSome?_eq_some found
    exact .inr (List.mem_flatMap.mpr ⟨r, member, CaseRun.mem_pairs_of_image? sent⟩)

/-- None of the images of some runs, and none of some other forms, is to be avoided or is sent
elsewhere by a run.
-/
def Settles (runs : List CaseRun) (forms avoided : List Nat) : Prop :=
  bits (avoided ++ (runs.flatMap CaseRun.pairs).map Prod.fst)
      &&& bits (forms ++ (runs.flatMap CaseRun.pairs).map Prod.snd)
    = 0

instance (runs : List CaseRun) (forms avoided : List Nat)
    : Decidable (Settles runs forms avoided) :=
  inferInstanceAs (Decidable (_ = _))

namespace Settles

variable {runs : List CaseRun} {forms avoided : List Nat}

/-- An image or another form is not avoided and stays where it is. -/
theorem stays (settles : Settles runs forms avoided) {form : Nat}
    (member : form ∈ forms ++ (runs.flatMap CaseRun.pairs).map Prod.snd)
    : form ∉ avoided ∧ mapThrough runs form = form := by
  have apart : form ∉ avoided ++ (runs.flatMap CaseRun.pairs).map Prod.fst :=
    fun other => disjoint_of_bits settles other member
  rw [List.mem_append, not_or] at apart
  refine ⟨apart.1, (mapThrough_eq_or_mem runs form).resolve_right fun source => ?_⟩
  exact apart.2 (List.mem_map_of_mem source)

/-- A code point that is not avoided goes to one that is not avoided and stays there. -/
theorem mapThrough_mapThrough (settles : Settles runs forms avoided) {code : Nat}
    (seen : code ∉ avoided)
    : mapThrough runs code ∉ avoided
      ∧ mapThrough runs (mapThrough runs code) = mapThrough runs code := by
  rcases mapThrough_eq_or_mem runs code with same | sent
  · rw [same]
    exact ⟨seen, same⟩
  · exact settles.stays (List.mem_append_right forms (List.mem_map_of_mem sent))

end Settles

-----------------------------------------------------------------------------------------
-- Lowercase forms
-----------------------------------------------------------------------------------------

/-- A line of runs is read from its characters. The kernel takes a text apart at once where only
its characters are asked for, but slowly where they are counted out of its bytes.
-/
theorem CaseRun.ofLines_cons_ofList (line : List Char) (lines : List String)
    : CaseRun.ofLines (String.ofList line :: lines)
      = (Text.split ' ' line).map CaseRun.ofText ++ CaseRun.ofLines lines := by
  simp [CaseRun.ofLines]

/-- The code points that are no lowercase forms but of themselves: the dot, the capital letters of
ASCII, a capital sigma and U+0130.
-/
def capitals : List Nat :=
  ['.'.toNat, 'Σ'.toNat, '\u0130'.toNat] ++ (List.range 26).map ('A'.toNat + ·)

/-- The forms that a capital sigma and U+0130 get. -/
def specialForms : List Nat :=
  ['ς'.toNat, 'σ'.toNat, 'i'.toNat, '\u0307'.toNat]

/-- No simple lowercase form has another one, and neither has a special one. -/
theorem settles_lowercaseRuns
    : Settles lowercaseRuns specialForms capitals := by
  unfold lowercaseRuns
  repeat rw [CaseRun.ofLines_cons_ofList]
  decide +kernel

end Casebook.Unicode
