import Casebook.Config.Check

/-! What settings are when a run accepts them. All checks have to pass, so each of them can be
taken from the answer alone.
-/

namespace Casebook

/-- The text can stand in a file name: it holds no separator and no control. -/
def Text.IsPlain (text : String) : Prop :=
  ∀ c ∈ text.toList, c ≠ '/' ∧ Text.isControl c = false

/-- What can stand in a file name holds no separator and no NUL, which is a control. -/
theorem Text.IsPlain.ne {text : String} (plain : Text.IsPlain text) {c : Char}
    (member : c ∈ text.toList)
    : c ≠ '/' ∧ c ≠ '\x00' := by
  obtain ⟨notSeparator, notControl⟩ := plain c member
  refine ⟨notSeparator, ?_⟩
  rintro rfl
  cases notControl

/-- A stem without a fault can stand in a file name. -/
theorem StemFault.isPlain {stem : String} (noFault : StemFault.find? stem = none)
    : Text.IsPlain stem := by
  unfold find? at noFault
  split at noFault
  next => cases noFault
  next noSeparator =>
  split at noFault
  next => cases noFault
  next noControl =>
    rw [Bool.or_eq_true, not_or, List.contains_eq_mem, decide_eq_true_eq] at noSeparator
    rw [Bool.not_eq_true, List.any_eq_false] at noControl
    intro c member
    refine ⟨fun same => noSeparator.1 (same ▸ member), ?_⟩
    have allowed := noControl c member
    rw [Bool.or_eq_true, not_or] at allowed
    exact Bool.eq_false_iff.mpr allowed.2

theorem Marker.checkSearch_eq_ok {m : Marker} (noFault : m.check = .ok ())
    (fits : m.isTooLarge = false)
    : m.checkSearch = .ok () := by
  rw [checkSearch, noFault, fits]
  rfl

/-- A marker that cannot be used is a fault of the settings. -/
theorem Marker.checkSearch_eq_error {m : Marker} {failure : Failure}
    (failed : m.checkSearch = .error failure)
    : ∃ fault, failure = .config (.marker fault) := by
  unfold checkSearch check at failed
  cases fault : m.fault? with
  | some found =>
    rw [fault] at failed
    cases failed
    exact ⟨found, rfl⟩
  | none =>
    rw [fault] at failed
    cases large : m.isTooLarge with
    | true =>
      rw [large] at failed
      cases failed
      exact ⟨_, rfl⟩
    | false =>
      rw [large] at failed
      cases failed

namespace Config

/-- An extension that is not bad can stand in a file name. -/
theorem isPlain_extension {c : Config} (notBad : c.hasBadExtension = false)
    : Text.IsPlain c.output.extension := by
  intro ch member
  have allowed := List.any_eq_false.mp notBad ch member
  rw [Bool.or_eq_true, not_or, decide_eq_true_eq] at allowed
  exact ⟨allowed.1, Bool.eq_false_iff.mpr allowed.2⟩

/-- Settings are accepted if and only if they pass every check. -/
theorem check_eq_ok_iff {c : Config} {t : Tree}
    : c.check t = .ok ()
      ↔ c.scan.marker.fault? = none
        ∧ checkPatterns c.scan.excludePatterns = .ok ()
        ∧ c.scan.maxDepth ≠ some 0
        ∧ StemFault.find? c.output.stem = none
        ∧ c.hasBadExtension = false
        ∧ c.isOutputBlocked t = false := by
  unfold check Marker.check checkStem
  cases c.scan.marker.fault? with
  | some fault => simp [bind, Except.bind]
  | none =>
  cases checkPatterns c.scan.excludePatterns with
  | error failure => simp [bind, Except.bind]
  | ok =>
  by_cases zero : c.scan.maxDepth = some 0
  · simp [bind, Except.bind, zero]
  cases StemFault.find? c.output.stem with
  | some fault => simp [bind, Except.bind, zero]
  | none =>
  cases c.hasBadExtension with
  | true => simp [bind, Except.bind, zero]
  | false =>
  cases c.isOutputBlocked t with
  | true => simp [bind, Except.bind, zero]
  | false => simp [bind, Except.bind, zero, pure, Except.pure]

end Config

end Casebook
