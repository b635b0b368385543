import Casebook.Proofs.Collector.Sources

/-! Where a run over sources stops. It stops at the first source or case that it cannot go past,
and leaves the cases of all literals before that: none of a source that is refused, and those in
front of the case that cannot be written.
-/

namespace Casebook

/-- The literal that is left open in the text of a source, if it has a text. -/
def Tree.openLiteral? (t : Tree) (m : Marker) (file : Source) : Option OpenLiteral :=
  match t.readText file.path with
  | .ok text => (m.scan text).unterminated
  | .error _ => none

namespace Collector

/-- A run over sources, as they are read in a tree, stops in a failure once so many of their
literals are written as cases numbered from `first` on. A source that is refused comes behind all
literals of the sources before it, and a case that cannot be written has the next number.
-/
inductive StopsAfter (k : Collector) (t : Tree) (files : List Source) (first : Nat)
    : Failure → Nat → Prop
  | unreadable {before file after cause} (parts : files = before ++ file :: after)
    (refused : k.skipUnreadable = false) (unread : t.readText file.path = .error cause)
    : k.StopsAfter t files first (.unreadableInput file.path cause)
        (t.literalsOfAll k.marker before).length
  | unterminated {before file after text u} (parts : files = before ++ file :: after)
    (refused : k.strict = true) (read : t.readText file.path = .ok text)
    (left : (k.marker.scan text).unterminated = some u)
    : k.StopsAfter t files first (.unterminatedLiteral file.path u.line u.delimiter)
        (t.literalsOfAll k.marker before).length
  | inTheWay {n} (unwritten : n < (t.literalsOfAll k.marker files).length)
    (refused : k.writer.overwrite = false)
    : k.StopsAfter t files first
        (.outputFileExists (k.writer.casePath (CaseNumber.after first n))) n
  | unwritable {n cause} (unwritten : n < (t.literalsOfAll k.marker files).length)
    : k.StopsAfter t files first
        (.writeFailure (k.writer.casePath (CaseNumber.after first n)) cause) n

variable {k : Collector} {t : Tree} {begun s last : Collecting} {written : List (Source × Literal)}
  {file : Source} {files : List Source} {first counter n : Nat} {failure : Failure}

/-- Where a run stops depends on what is read of its sources. -/
theorem StopsAfter.congr {t' : Tree} (stops : k.StopsAfter t files first failure n)
    (same : ∀ file ∈ files, t'.readText file.path = t.readText file.path)
    : k.StopsAfter t' files first failure n := by
  have ofFront {before after : List Source} {file : Source}
      (parts : files = before ++ file :: after)
      : t'.readText file.path = t.readText file.path
        ∧ t'.literalsOfAll k.marker before = t.literalsOfAll k.marker before := by
    subst parts
    exact ⟨same file (List.mem_append_right _ List.mem_cons_self),
      Tree.literalsOfAll_congr (fun other member => same other (List.mem_append_left _ member)) _⟩
  have all := Tree.literalsOfAll_congr same k.marker
  cases stops with
  | unreadable parts refused unread =>
    obtain ⟨here, front⟩ := ofFront parts
    rw [← front]
    exact .unreadable parts refused (here.trans unread)
  | unterminated parts refused read left =>
    obtain ⟨here, front⟩ := ofFront parts
    rw [← front]
    exact .unterminated parts refused (here.trans read) left
  | inTheWay unwritten refused => exact .inTheWay (all ▸ unwritten) refused
  | unwritable unwritten => exact .unwritable (all ▸ unwritten)

/-- A run that stops among some sources stops there whatever sources come behind them. -/
theorem StopsAfter.append (stops : k.StopsAfter t files first failure n) (rest : List Source)
    : k.StopsAfter t (files ++ rest) first failure n := by
  have longer
      : (t.literalsOfAll k.marker files).length
        ≤ (t.literalsOfAll k.marker (files ++ rest)).length := by
    rw [Tree.literalsOfAll_append, List.length_append]
    exact Nat.le_add_right _ _
  have behind {before file after} (parts : files = before ++ file :: after)
      : files ++ rest = before ++ file :: (after ++ rest) := by
    rw [parts, List.append_assoc, List.cons_append]
  cases stops with
  | unreadable parts refused unread => exact .unreadable (behind parts) refused unread
  | unterminated parts refused read left => exact .unterminated (behind parts) refused read left
  | inTheWay unwritten refused => exact .inTheWay (Nat.lt_of_lt_of_le unwritten longer) refused
  | unwritable unwritten => exact .unwritable (Nat.lt_of_lt_of_le unwritten longer)

/-- A run that stops behind its first source has written all literals of that source before. -/
theorem StopsAfter.behind
    (stops
      : k.StopsAfter t files (CaseNumber.after first (t.literalsOf k.marker file).length) failure n)
    : k.StopsAfter t (file :: files) first failure
        ((t.literalsOf k.marker file).length + n) := by
  have length (others : List Source)
      : (t.literalsOfAll k.marker (file :: others)).length
        = (t.literalsOf k.marker file).length + (t.literalsOfAll k.marker others).length := by
    rw [Tree.literalsOfAll_cons, List.length_append, List.length_map]
  cases stops with
  | unreadable parts refused unread =>
    rw [← length]
    exact .unreadable (congrArg (file :: ·) parts) refused unread
  | unterminated parts refused read left =>
    rw [← length]
    exact .unterminated (congrArg (file :: ·) parts) refused read left
  | inTheWay unwritten refused =>
    rw [← CaseNumber.after_add]
    refine .inTheWay ?_ refused
    rw [length]
    exact Nat.add_lt_add_left unwritten _
  | unwritable unwritten =>
    rw [← CaseNumber.after_add]
    refine .unwritable ?_
    rw [length]
    exact Nat.add_lt_add_left unwritten _

/-- A run over sources that stops does so at one of them, in the state that the sources before it
lead to, and these were all collected. By induction on the sources.
-/
theorem exists_failed_of_collectRest (next : s.progress.nextIndex = counter)
    (failed : (k.collectRest files counter s).result = .error failure)
    : ∃ before file behind,
        files = before ++ file :: behind
        ∧ k.collectFile file (k.endOf before counter s).progress.nextIndex
              (k.endOf before counter s)
          = (.error failure, k.endOf files counter s)
        ∧ ∀ front other rest, before = front ++ other :: rest →
            ∃ after,
              (k.collectFile other (k.endOf front counter s).progress.nextIndex
                (k.endOf front counter s)).1
              = .ok after := by
  induction files generalizing counter s with
  | nil => cases failed
  | cons file rest ih =>
    rw [collectRest] at failed
    cases collected : k.collectFile file counter s with
    | mk outcome after =>
      rw [collected] at failed
      cases outcome with
      | error cause =>
        cases failed
        refine ⟨[], file, rest, rfl, ?_, fun front other rest parts => ?_⟩
        · rw [endOf, endOf, next, collected]
        · exact absurd parts.symm (List.append_ne_nil_of_right_ne_nil front (List.cons_ne_nil _ _))
      | ok counter' =>
        obtain ⟨-, counted, -⟩ := collectFile_ok next collected
        obtain ⟨before, other, behind, parts, stops, collects⟩ := ih counted.symm failed
        have onward (files : List Source)
            : k.endOf (file :: files) counter s = k.endOf files counter' after := by
          rw [endOf, collected]
        refine ⟨file :: before, other, behind, congrArg _ parts, ?_, ?_⟩
        · rw [onward, onward]
          exact stops
        · intro front another rest parts
          cases front with
          | nil =>
            obtain ⟨rfl, -⟩ := List.cons.inj parts
            rw [endOf, next, collected]
            exact ⟨counter', rfl⟩
          | cons first front =>
            obtain ⟨rfl, sameRest⟩ := List.cons.inj parts
            rw [onward]
            exact collects front another rest sameRest

/-- Writing literals fails only because of a case. -/
theorem LiteralsWritten.failure_eq {ls : List Literal}
    (writes : k.LiteralsWritten file ls s (.error failure) last)
    : ∃ n,
        failure = .outputFileExists (k.writer.casePath n)
        ∨ ∃ cause, failure = .writeFailure (k.writer.casePath n) cause := by
  cases writes with
  | stopped _ _ failed =>
    cases CaseWriter.caseWritten_of_eq failed with
    | inTheWay => exact ⟨_, .inl rfl⟩
    | noPlace => exact ⟨_, .inr ⟨_, rfl⟩⟩
    | brokenOff => exact ⟨_, .inr ⟨_, rfl⟩⟩

/-- Where a literal that is left open stops a run, it is one of the source that was taken up last,
and nothing of that source is written.
-/
theorem openLiteral?_of_failed {path delimiter : String} {line : Nat}
    (next : s.progress.nextIndex = counter)
    (failed
      : k.collectFile file counter s = (.error (.unterminatedLiteral path line delimiter), last))
    : ∃ u,
        s.tree.openLiteral? k.marker file = some u
        ∧ path = file.path
        ∧ line = u.line
        ∧ delimiter = u.delimiter
        ∧ last = { s with progress := s.progress.enter file.relativePath } := by
  cases fileCollected_of_eq next failed with
  | leftOpen _ read left =>
    refine ⟨_, ?_, rfl, rfl, rfl, rfl⟩
    rw [Tree.openLiteral?, read]
    exact left
  | written _ _ _ next _ _ writes =>
    obtain ⟨_, impossible | ⟨_, impossible⟩⟩ := (literalsWritten_of_eq next writes).failure_eq
    · cases impossible
    · cases impossible

/-- A collector that skips what it cannot read does not fail because of it. -/
theorem skipUnreadable_eq_false_of_failed {path : String} {cause : IoError}
    (next : s.progress.nextIndex = counter)
    (failed : k.collectFile file counter s = (.error (.unreadableInput path cause), last))
    : k.skipUnreadable = false := by
  cases fileCollected_of_eq next failed with
  | unread refuses => exact refuses
  | written _ _ _ next _ _ writes =>
    obtain ⟨_, impossible | ⟨_, impossible⟩⟩ := (literalsWritten_of_eq next writes).failure_eq
    · cases impossible
    · cases impossible

/-- A strict collector collects a source only if none of its literals is left open. -/
theorem openLiteral?_eq_none_of_strict {after : Nat} (next : s.progress.nextIndex = counter)
    (strict : k.strict = true) (ok : (k.collectFile file counter s).1 = .ok after)
    : s.tree.openLiteral? k.marker file = none := by
  rw [Tree.openLiteral?]
  cases collected : k.collectFile file counter s with
  | mk outcome last =>
    rw [collected] at ok
    subst ok
    cases fileCollected_of_eq next collected with
    | skipped _ unread => rw [unread]
    | written read closed =>
      rw [read]
      exact closed strict

end Collector

end Casebook
