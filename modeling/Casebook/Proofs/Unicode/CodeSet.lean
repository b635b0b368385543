import Mathlib.Data.List.Sort
import Casebook.Unicode.Category

/-! What sets of code points hold. Ranges may be put in order and joined without a change to what
they hold, and the gaps between them hold the rest, as long as every range runs upwards.
-/

namespace Casebook.Unicode.CodeSet

/-- Every range of the set runs upwards and ends where code points end or before. -/
def Proper (s : CodeSet) : Prop :=
  ∀ range ∈ s.ranges, range.1 ≤ range.2 ∧ range.2 ≤ maxCode

/-- The range holds the code point. -/
def Covers (range : Nat × Nat) (code : Nat) : Prop :=
  range.1 ≤ code ∧ code ≤ range.2

theorem contains_iff {s : CodeSet} {code : Nat}
    : s.contains code = true ↔ ∃ range ∈ s.ranges, Covers range code := by
  simp [contains, Covers]

theorem contains_append (s t : CodeSet) (code : Nat)
    : (s ++ t).contains code = (s.contains code || t.contains code) :=
  List.any_append

theorem proper_append {s t : CodeSet} (first : s.Proper) (second : t.Proper)
    : (s ++ t).Proper := by
  intro range member
  rcases List.mem_append.mp member with inFirst | inSecond
  · exact first range inFirst
  · exact second range inSecond

-----------------------------------------------------------------------------------------
-- Ranges in order
-----------------------------------------------------------------------------------------

/-- The ranges are in order and do not touch each other. -/
def Apart (ranges : List (Nat × Nat)) : Prop :=
  ranges.Pairwise fun a b => a.2 + 1 < b.1

/-- Joining ranges that touch changes nothing about what they hold, by induction on those to come.
-/
theorem exists_mem_joinFrom {low high : Nat} {rest : List (Nat × Nat)} {code : Nat}
    (ordered : ((low, high) :: rest).Pairwise fun a b => a.1 ≤ b.1)
    : (∃ range ∈ joinFrom low high rest, Covers range code)
      ↔ ∃ range ∈ (low, high) :: rest, Covers range code := by
  induction rest generalizing low high with
  | nil => rfl
  | cons next rest ih =>
    obtain ⟨least, behind⟩ := List.pairwise_cons.mp ordered
    have lowNext : low ≤ next.1 := least next List.mem_cons_self
    unfold joinFrom
    split
    next touches =>
      have ordered' : ((low, max high next.2) :: rest).Pairwise fun a b => a.1 ≤ b.1 :=
        List.pairwise_cons.mpr
          ⟨fun range member => least range (List.mem_cons_of_mem next member),
            (List.pairwise_cons.mp behind).2⟩
      rw [ih ordered']
      simp only [List.exists_mem_cons_iff, Covers, ← or_assoc]
      refine or_congr_left ?_
      omega
    next =>
      rw [List.exists_mem_cons_iff, List.exists_mem_cons_iff]
      exact or_congr_right (ih behind)

/-- Ranges that are joined begin where the first begins or behind it, and are apart. -/
theorem apart_joinFrom {low high : Nat} {rest : List (Nat × Nat)}
    (ordered : ((low, high) :: rest).Pairwise fun a b => a.1 ≤ b.1)
    (proper : ∀ range ∈ (low, high) :: rest, range.1 ≤ range.2 ∧ range.2 ≤ maxCode)
    : Apart (joinFrom low high rest)
      ∧ ∀ range ∈ joinFrom low high rest,
          low ≤ range.1 ∧ range.1 ≤ range.2 ∧ range.2 ≤ maxCode := by
  induction rest generalizing low high with
  | nil =>
    refine ⟨List.pairwise_singleton _ _, fun range member => ?_⟩
    obtain rfl := List.mem_singleton.mp member
    exact ⟨Nat.le_refl low, proper _ List.mem_cons_self⟩
  | cons next rest ih =>
    obtain ⟨least, behind⟩ := List.pairwise_cons.mp ordered
    have lowNext : low ≤ next.1 := least next List.mem_cons_self
    have lowHigh : low ≤ high ∧ high ≤ maxCode := proper _ List.mem_cons_self
    unfold joinFrom
    split
    next touches =>
      have ordered' : ((low, max high next.2) :: rest).Pairwise fun a b => a.1 ≤ b.1 :=
        List.pairwise_cons.mpr
          ⟨fun range member => least range (List.mem_cons_of_mem next member),
            (List.pairwise_cons.mp behind).2⟩
      refine ih ordered' fun range member => ?_
      rcases List.mem_cons.mp member with rfl | later
      · have := proper next (List.mem_cons_of_mem _ List.mem_cons_self)
        dsimp only
        omega
      · exact proper range (List.mem_cons_of_mem _ (List.mem_cons_of_mem _ later))
    next distant =>
      obtain ⟨apart, begins⟩ :=
        ih behind fun range member => proper range (List.mem_cons_of_mem _ member)
      refine ⟨List.pairwise_cons.mpr ⟨fun range member => ?_, apart⟩, fun range member => ?_⟩
      · have := (begins range member).1
        omega
      · rcases List.mem_cons.mp member with rfl | later
        · exact ⟨Nat.le_refl low, lowHigh⟩
        · have := begins range later
          omega

/-- A set in order holds what the set holds, and its ranges are apart. -/
theorem normal_spec {s : CodeSet} (proper : s.Proper)
    : s.normal.Proper ∧ Apart s.normal.ranges
      ∧ ∀ code, s.normal.contains code = true ↔ s.contains code = true := by
  have sorted : (s.ranges.mergeSort fun a b => a.1 ≤ b.1).Pairwise fun a b => a.1 ≤ b.1 := by
    refine (List.pairwise_mergeSort ?_ ?_ s.ranges).imp fun {a b} before => of_decide_eq_true before
    · intro a b c first second
      exact decide_eq_true (Nat.le_trans (of_decide_eq_true first) (of_decide_eq_true second))
    · intro a b
      rw [Bool.or_eq_true, decide_eq_true_eq, decide_eq_true_eq]
      exact Nat.le_total a.1 b.1
  have members (range : Nat × Nat)
      : range ∈ s.ranges.mergeSort (fun a b => a.1 ≤ b.1) ↔ range ∈ s.ranges :=
    List.mem_mergeSort
  unfold normal
  generalize s.ranges.mergeSort (fun a b => a.1 ≤ b.1) = ranges at sorted members
  cases ranges with
  | nil =>
    refine ⟨nofun, .nil, fun code => ?_⟩
    simp only [contains_iff, ← members]
  | cons first rest =>
    obtain ⟨apart, begins⟩ :=
      apart_joinFrom sorted fun range member => proper range ((members range).mp member)
    refine ⟨fun range member => (begins range member).2, apart, fun code => ?_⟩
    rw [contains_iff, contains_iff, exists_mem_joinFrom sorted]
    simp only [members]

-----------------------------------------------------------------------------------------
-- Gaps
-----------------------------------------------------------------------------------------

/-- The gaps that ranges leave from a code point on hold what the ranges do not hold from there, by
induction on the ranges.
-/
theorem gapsFrom_spec {start : Nat} {ranges : List (Nat × Nat)} (apart : Apart ranges)
    (begins : ∀ range ∈ ranges, start ≤ range.1 ∧ range.1 ≤ range.2 ∧ range.2 ≤ maxCode)
    : (∀ gap ∈ gapsFrom start ranges, gap.1 ≤ gap.2 ∧ gap.2 ≤ maxCode)
      ∧ ∀ code ≤ maxCode,
          (∃ gap ∈ gapsFrom start ranges, Covers gap code)
            ↔ start ≤ code ∧ ¬ ∃ range ∈ ranges, Covers range code := by
  induction ranges generalizing start with
  | nil =>
    unfold gapsFrom
    split
    next fits => simp +contextual [Covers, fits]
    next beyond =>
      refine ⟨nofun, fun code within => ?_⟩
      simp only [List.not_mem_nil, false_and, exists_false, not_false_eq_true, and_true, false_iff]
      omega
  | cons range ranges ih =>
    obtain ⟨low, high⟩ := range
    obtain ⟨distant, behind⟩ := List.pairwise_cons.mp apart
    have first := begins _ List.mem_cons_self
    dsimp only at first distant
    obtain ⟨proper, covered⟩ :=
      @ih (high + 1) behind fun range member => by
        have := distant range member
        have := begins range (List.mem_cons_of_mem _ member)
        omega
    have elsewhere (code : Nat) (early : code ≤ high + 1)
        : ¬ ∃ range ∈ ranges, Covers range code := by
      rintro ⟨range, member, here⟩
      have := distant range member
      have := here.1
      omega
    unfold gapsFrom
    split
    next room =>
      refine ⟨fun gap member => ?_, fun code within => ?_⟩
      · rcases List.mem_cons.mp member with rfl | later
        · dsimp only
          omega
        · exact proper gap later
      · rw [List.exists_mem_cons_iff, covered code within, List.exists_mem_cons_iff, not_or]
        have := elsewhere code
        simp only [Covers] at this ⊢
        by_cases early : code ≤ high + 1
        · have none := this early
          simp only [none, not_false_eq_true, and_true]
          omega
        · have late : high + 1 ≤ code ∧ start ≤ code ∧ ¬ code ≤ low - 1 ∧ ¬ code ≤ high := by omega
          simp only [late, and_false, false_or, true_and, not_false_eq_true]
    next noRoom =>
      refine ⟨proper, fun code within => ?_⟩
      rw [covered code within, List.exists_mem_cons_iff, not_or]
      simp only [Covers]
      have : high + 1 ≤ code ↔ start ≤ code ∧ ¬ (low ≤ code ∧ code ≤ high) := by omega
      rw [this, and_assoc]

/-- The complement of a set holds every code point that the set does not hold. -/
theorem complement_spec {s : CodeSet} (proper : s.Proper)
    : s.complement.Proper
      ∧ ∀ code ≤ maxCode, s.complement.contains code = !s.contains code := by
  obtain ⟨normalProper, apart, same⟩ := normal_spec proper
  obtain ⟨gaps, covered⟩ :=
    @gapsFrom_spec 0 _ apart fun range member => ⟨Nat.zero_le _, normalProper range member⟩
  refine ⟨gaps, fun code within => ?_⟩
  rw [Bool.eq_iff_iff, Bool.not_eq_true', ← Bool.not_eq_true, ← same, contains_iff, contains_iff]
  exact (covered code within).trans (and_iff_right (Nat.zero_le code))

theorem proper_minus {s t : CodeSet} (proper : s.Proper) (otherProper : t.Proper)
    : (s.minus t).Proper :=
  (complement_spec (proper_append (complement_spec proper).1 otherProper)).1

/-- A set without another one holds what it holds and the other one does not hold. -/
theorem contains_minus {s t : CodeSet} (proper : s.Proper) (otherProper : t.Proper) {code : Nat}
    (within : code ≤ maxCode)
    : (s.minus t).contains code = (s.contains code && !t.contains code) := by
  obtain ⟨outside, notHeld⟩ := complement_spec proper
  rw [minus, (complement_spec (proper_append outside otherProper)).2 code within, contains_append,
    notHeld code within, Bool.not_or, Bool.not_not]

-----------------------------------------------------------------------------------------
-- Characters
-----------------------------------------------------------------------------------------

theorem toNat_le_maxCode (c : Char)
    : c.toNat ≤ maxCode := by
  have := c.valid
  simp only [UInt32.isValidChar, Nat.isValidChar] at this
  simp only [Char.toNat, maxCode]
  omega

theorem ranges_surrogate
    : Category.surrogate.ranges = [(0xD800, 0xDFFF)] := by
  decide +kernel

theorem contains_surrogate (code : Nat)
    : Category.surrogate.contains code = true ↔ 0xD800 ≤ code ∧ code ≤ 0xDFFF := by
  simp [contains, ranges_surrogate]

theorem proper_surrogate
    : Category.surrogate.Proper := by
  simp [Proper, ranges_surrogate, maxCode]

theorem proper_ofChar (c : Char)
    : (ofChar c).Proper := by
  simp [Proper, ofChar, toNat_le_maxCode]

theorem contains_ofChar {c d : Char}
    : (ofChar c).contains d.toNat = decide (d = c) := by
  rw [Bool.eq_iff_iff, decide_eq_true_eq, ← Char.toNat_inj]
  simp only [contains, ofChar, List.any_cons, List.any_nil, Bool.or_false, Bool.and_eq_true,
    decide_eq_true_eq]
  omega

/-- No character is a surrogate, so a set without them holds the same characters. -/
theorem contains_minus_surrogate {s : CodeSet} (proper : s.Proper) (c : Char)
    : (s.minus Category.surrogate).contains c.toNat = s.contains c.toNat := by
  have other : Category.surrogate.contains c.toNat = false := by
    have := c.valid
    simp only [UInt32.isValidChar, Nat.isValidChar] at this
    rw [← Bool.not_eq_true, contains_surrogate, Char.toNat]
    omega
  rw [contains_minus proper proper_surrogate (toNat_le_maxCode c), other, Bool.not_false,
    Bool.and_true]

/-- What a set without surrogates holds is the number of a character. -/
theorem isValidChar_of_contains_minus {s : CodeSet} (proper : s.Proper) {code : Nat}
    (within : code ≤ maxCode) (held : (s.minus Category.surrogate).contains code = true)
    : code.isValidChar := by
  rw [contains_minus proper proper_surrogate within, Bool.and_eq_true, Bool.not_eq_true',
    ← Bool.not_eq_true, contains_surrogate] at held
  have := held.2
  simp only [maxCode] at within
  simp only [Nat.isValidChar]
  omega

end Casebook.Unicode.CodeSet
