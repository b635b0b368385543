import Casebook.Proofs.Console.Telling

/-! What consoles show that print alike. A console that is more verbose, or not quiet where the
other one is, prints all that the other one prints and maybe more in between; on standard error the
verbosity makes no difference.
-/

namespace Casebook.Console

/-- Two consoles print alike at the same time, and the first shows no more than the second one. -/
structure AtMost (c d : Console) : Prop where
  mode : c.mode = d.mode
  colors : c.colors = d.colors
  now : c.now = d.now
  quiet : d.quiet = true → c.quiet = true
  verbosity : c.verbosity ≤ d.verbosity

variable {c d : Console}

namespace AtMost

/-- What the first console shows the second one shows as well. -/
theorem shows (atMost : c.AtMost d) {level : Nat} (shown : c.shows level = true)
    : d.shows level = true := by
  have quiet := atMost.quiet
  have verbosity := atMost.verbosity
  simp only [Console.shows, Bool.and_eq_true, Bool.not_eq_eq_eq_not, Bool.not_true,
    decide_eq_true_eq] at shown ⊢
  constructor
  · exact Bool.eq_false_iff.mpr fun isQuiet => by simp [quiet isQuiet] at shown
  · omega

/-- The consoles are the same but for what they show. -/
theorem eq_with (atMost : c.AtMost d)
    : d = { c with verbosity := d.verbosity, quiet := d.quiet } := by
  obtain ⟨mode, colors, now, -, -⟩ := atMost
  simp only [mode, colors, now]

/-- A message is the same on both. -/
theorem message_eq (atMost : c.AtMost d) (kind : Kind) (text : String)
    : c.message kind text = d.message kind text := by
  rw [atMost.eq_with]
  rfl

theorem aside_eq (atMost : c.AtMost d) (level text colored bare plain : String)
    : c.aside level text colored bare plain = d.aside level text colored bare plain := by
  rw [atMost.eq_with]
  rfl

/-- One printed text more or less. -/
theorem shown_sublist (atMost : c.AtMost d) (level : Nat) (p : Printed)
    : (if c.shows level then [p] else []).Sublist (if d.shows level then [p] else []) := by
  split
  next shown => simp [atMost.shows shown]
  next => exact List.nil_sublist _

theorem separator_sublist (atMost : c.AtMost d)
    : c.separator.Sublist d.separator := by
  unfold separator
  cases loud : c.quiet with
  | true => exact List.nil_sublist _
  | false =>
    have other : d.quiet = false :=
      Bool.eq_false_iff.mpr fun quiet => by simp [atMost.quiet quiet] at loud
    simp [other, atMost.mode, atMost.colors]

/-- A report for people has the lines that it has on the first console, and maybe lines on the
sources and on the cases.
-/
theorem humanLines_sublist (atMost : c.AtMost d) (r : Report)
    : (c.humanLines r).Sublist (d.humanLines r) := by
  have verbosity := atMost.verbosity
  have sources : (c.sourceLines r.summary).Sublist (d.sourceLines r.summary) := by
    unfold sourceLines
    split
    next shown => simp [shown.2, Nat.le_trans shown.1 verbosity]
    next => exact List.nil_sublist _
  have cases : (c.caseLines r).Sublist (d.caseLines r) := by
    unfold caseLines
    split
    next shown => simp [Nat.le_trans shown verbosity]
    next => exact List.nil_sublist _
  have first : c.headline r.dryRun = d.headline r.dryRun := by
    rw [atMost.eq_with]
    rfl
  have summary : c.summaryLines r = d.summaryLines r := by
    rw [atMost.eq_with]
    rfl
  unfold humanLines
  rw [first, summary]
  exact (((List.Sublist.refl _).append sources).append cases).append (List.Sublist.refl _)

/-- A plain report has the lines that it has on the first console, and maybe lines on the cases. -/
theorem plainLines_sublist (atMost : c.AtMost d) (r : Report)
    : (c.plainLines r).Sublist (d.plainLines r) := by
  have verbosity := atMost.verbosity
  unfold plainLines
  refine (List.Sublist.append (List.Sublist.refl _) ?_).append (List.Sublist.refl _)
  split
  next shown => simp [Nat.le_trans shown verbosity]
  next => exact List.nil_sublist _

/-- A report has all that it has on the first console. -/
theorem report_sublist (atMost : c.AtMost d) (r : Report)
    : (c.report r).Sublist (d.report r) := by
  unfold report
  rw [← atMost.mode]
  cases c.mode with
  | json => exact List.Sublist.refl _
  | human =>
    dsimp only
    split
    next => exact List.nil_sublist _
    next loud =>
      rw [if_neg fun quiet => loud (atMost.quiet quiet), humanReport_eq, humanReport_eq]
      exact (atMost.separator_sublist.append ((atMost.humanLines_sublist r).map _)).append
        atMost.separator_sublist
  | plain =>
    dsimp only
    split
    next => exact List.nil_sublist _
    next loud =>
      rw [if_neg fun quiet => loud (atMost.quiet quiet)]
      exact (atMost.plainLines_sublist r).map _

theorem failure_eq (atMost : c.AtMost d) (f : Failure)
    : c.failure f = d.failure f := by
  rw [atMost.eq_with]
  rfl

/-- Of each thing that is told the second console prints all that the first one prints. -/
theorem tell_sublist (atMost : c.AtMost d) (telling : Telling)
    : (c.tell telling).Sublist (d.tell telling) := by
  cases telling with
  | warning text =>
    simp only [tell, warning, atMost.message_eq]
    exact atMost.shown_sublist 0 _
  | info text =>
    simp only [tell, info, atMost.message_eq]
    exact atMost.shown_sublist 1 _
  | debug text =>
    simp only [tell, debug_eq, atMost.aside_eq]
    exact atMost.shown_sublist 2 _
  | start operation =>
    simp only [tell, start_eq, atMost.aside_eq]
    exact atMost.shown_sublist 1 _
  | failure f => simp [tell, atMost.failure_eq]
  | report r => exact atMost.report_sublist r

/-- Of many things that are told the second console prints all that the first one prints, in the
same order.
-/
theorem flatMap_tell_sublist (atMost : c.AtMost d) (tellings : List Telling)
    : (tellings.flatMap c.tell).Sublist (tellings.flatMap d.tell) := by
  induction tellings with
  | nil => exact List.Sublist.refl _
  | cons first more ih => exact (atMost.tell_sublist first).append ih

end AtMost

-----------------------------------------------------------------------------------------
-- Standard error
-----------------------------------------------------------------------------------------

/-- Neither infos nor texts beside the messages go to standard error. -/
theorem stream_info_aside (c : Console) (text colored bare plain : String)
    : (c.message .info text).stream = .out
      ∧ (c.aside "debug" text colored bare plain).stream = .out
      ∧ (c.aside "operation_start" text colored bare plain).stream = .out := by
  obtain ⟨mode, colors, -, -, -⟩ := c
  cases mode <;> cases colors <;> exact ⟨rfl, rfl, rfl⟩

theorem separator_eq_or (c : Console)
    : c.separator = [] ∨ ∃ line, c.separator = [out line] := by
  obtain ⟨mode, colors, -, quiet, -⟩ := c
  cases quiet with
  | true => exact .inl rfl
  | false =>
    cases mode with
    | human => cases colors <;> exact .inr ⟨_, rfl⟩
    | plain => exact .inr ⟨_, rfl⟩
    | json => exact .inl rfl

/-- A report goes to standard output. -/
theorem stream_of_mem_report {r : Report} {p : Printed} (member : p ∈ c.report r)
    : p.stream = .out := by
  have lines {texts : List String} (member : p ∈ texts.map out) : p.stream = .out := by
    obtain ⟨text, -, rfl⟩ := List.mem_map.mp member
    rfl
  have parts (member : p ∈ c.separator) : p.stream = .out := by
    rcases c.separator_eq_or with none | ⟨line, some⟩
    · simp [none] at member
    · simp only [some, List.mem_singleton] at member
      rw [member, out]
  unfold report at member
  split at member
  next =>
    rw [List.mem_singleton.mp member, out]
  next =>
    split at member
    next => cases member
    next =>
      rw [humanReport_eq, List.mem_append, List.mem_append] at member
      rcases member with (first | member) | last
      · exact parts first
      · exact lines member
      · exact parts last
  next =>
    split at member
    next => cases member
    next => exact lines member

/-- On standard error the verbosity makes no difference. -/
theorem AtMost.textsOn_err_tell (atMost : c.AtMost d) (same : c.quiet = d.quiet)
    (telling : Telling)
    : Printed.textsOn .err (c.tell telling) = Printed.textsOn .err (d.tell telling) := by
  have none {printed : List Printed} (out : ∀ p ∈ printed, p.stream = .out)
      : Printed.textsOn .err printed = [] := by
    simp only [Printed.textsOn, List.map_eq_nil_iff, List.filter_eq_nil_iff, decide_eq_true_eq]
    intro p member
    simp [out p member]
  have hidden {level : Nat} {p : Printed} (c : Console) (out : p.stream = .out)
      : Printed.textsOn .err (if c.shows level then [p] else []) = [] := by
    apply none
    split <;> simp [out]
  cases telling with
  | warning text =>
    have alike : c.shows 0 = d.shows 0 := by simp [Console.shows, same]
    simp only [tell, warning, atMost.message_eq, alike]
  | info text =>
    simp only [tell, info]
    rw [hidden c (c.stream_info_aside text "" "" "").1,
      hidden d (d.stream_info_aside text "" "" "").1]
  | debug text =>
    simp only [tell, debug_eq]
    rw [hidden c (c.stream_info_aside ..).2.1, hidden d (d.stream_info_aside ..).2.1]
  | start operation =>
    simp only [tell, start_eq]
    rw [hidden c (c.stream_info_aside ..).2.2, hidden d (d.stream_info_aside ..).2.2]
  | failure f => simp only [tell, atMost.failure_eq]
  | report r =>
    simp only [tell]
    rw [none fun p => stream_of_mem_report, none fun p => stream_of_mem_report]

end Casebook.Console
