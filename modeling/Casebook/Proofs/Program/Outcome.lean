import Casebook.Program
import Casebook.Proofs.Console.Sayings
import Casebook.Proofs.Evaluation

/-! How the program ends. It ends with code 1 exactly if its settings cannot be used or its
extraction fails, and otherwise with code 0 and what the extraction does. A failure is told in the
mode that is asked for once the settings can be used. Settings that cannot be used are told to
people in every mode.
-/

namespace Casebook

namespace Console

/-- The printed text tells an error on standard error as a mode does: to people behind a sign or a
picture, in JSON as one line that is read as a message with the level of errors, and in plain texts
behind a word.
-/
def TellsError (mode : Mode) (text : String) (p : Printed) : Prop :=
  p.stream = .err
  ∧ match mode with
    | .human => p.text = "✗ " ++ text ∨ p.text = "❌ " ++ styled [.red, .bold] text
    | .json =>
      '\n' ∉ p.text.toList
      ∧ (Json.ofText? p.text).bind Said.ofJson? = some (.message "error" text)
    | .plain => p.text = "ERROR: " ++ text

/-- A console tells a failure in its mode. -/
theorem exists_tellsError (c : Console) (f : Failure)
    : ∃ p ∈ c.failure f, TellsError c.mode f.userMessage p := by
  refine ⟨c.message .error f.userMessage, List.mem_append_left _ (List.mem_singleton_self _), ?_⟩
  obtain ⟨mode, colors, verbosity, quiet, now⟩ := c
  cases mode with
  | human =>
    cases colors with
    | false => exact ⟨rfl, .inl rfl⟩
    | true => exact ⟨rfl, .inr rfl⟩
  | plain => exact ⟨rfl, rfl⟩
  | json =>
    have tells := jsonMessage_tells ⟨.json, colors, verbosity, quiet, now⟩ "error" f.userMessage
    obtain ⟨value, isForm, read⟩ := tells.form
    refine ⟨tells.stream, tells.line rfl, ?_⟩
    exact (congrArg (·.bind Said.ofJson?) isForm.ofText?).trans read

/-- What people are shown of a failure begins with a sign, a picture or a word of its own. -/
theorem exists_front_of_mem_failure {c : Console} (people : c.mode = .human) {f : Failure}
    {p : Printed} (member : p ∈ c.failure f)
    : ∃ first more, p.text.toList = first :: more ∧ first ∈ ['✗', '❌', 'S', 'ℹ'] := by
  obtain ⟨mode, colors, verbosity, quiet, now⟩ := c
  obtain rfl : mode = .human := people
  rcases List.mem_append.mp member with error | suggestion
  · obtain rfl := List.mem_singleton.mp error
    cases colors with
    | false => exact ⟨'✗', ' ' :: f.userMessage.toList, String.toList_append, by decide⟩
    | true =>
      exact ⟨'❌', ' ' :: (styled [.red, .bold] f.userMessage).toList, String.toList_append,
        by decide⟩
  · cases suggestion? : f.suggestion? with
    | none => simp [suggestion?] at suggestion
    | some text =>
      rw [suggestion?] at suggestion
      cases colors with
      | false =>
        obtain rfl := List.mem_singleton.mp suggestion
        exact ⟨'S', "uggestion: ".toList ++ text.toList, String.toList_append, by decide⟩
      | true =>
        obtain rfl := List.mem_singleton.mp suggestion
        exact ⟨'ℹ', "️  ".toList ++ (styled [.cyan] ("Suggestion: " ++ text)).toList,
          String.toList_append, by decide⟩

/-- A console for people tells an error in no other mode. -/
theorem not_tellsError_of_human {c : Console} (people : c.mode = .human) {mode : Mode}
    (other : mode ≠ .human) {f : Failure} {text : String} {p : Printed} (member : p ∈ c.failure f)
    : ¬ TellsError mode text p := by
  obtain ⟨first, more, same, isFront⟩ := exists_front_of_mem_failure people member
  rintro ⟨-, tells⟩
  cases mode with
  | human => exact other rfl
  | plain =>
    have front : "ERROR: ".toList = ['E', 'R', 'R', 'O', 'R', ':', ' '] := rfl
    rw [tells, String.toList_append, front, List.cons_append] at same
    obtain ⟨rfl, -⟩ := List.cons.inj same
    exact absurd isFront (by decide)
  | json =>
    have begins : ∀ c ∈ ['✗', '❌', 'S', 'ℹ'],
        Json.isBlank c = false ∧ c.isDigit = false
        ∧ c ≠ '[' ∧ c ≠ '\x7b' ∧ c ≠ '"' ∧ c ≠ 'n' ∧ c ≠ 't' ∧ c ≠ 'f' := by
      intro c member
      simp only [List.mem_cons, List.not_mem_nil, or_false] at member
      rcases member with rfl | rfl | rfl | rfl <;> simp [Json.isBlank, Char.isDigit]
    obtain ⟨noBlank, noDigit, none⟩ := begins first isFront
    simp [Json.ofText?_eq_none same noBlank noDigit none] at tells

end Console

namespace Program

/-- The extraction that arguments ask for, with some settings. -/
def extraction (a : Arguments) (config : Config) (terminal : Bool) (clock : Clock)
    : Extraction where
  config := config
  console := .ofOptions (a.mode.getD .human) a.verbosity a.quiet terminal clock.now
  dryRun := a.dryRun

/-- Why the program ends before it is done: its settings cannot be used, or its extraction fails. -/
inductive StopsFor (a : Arguments) (t : Tree) (terminal : Bool) (clock : Clock) : Failure → Prop
  | unusable {f} (refused : settings a t = .error f) : StopsFor a t terminal clock f
  | extraction {config root f} (usable : settings a t = .ok config) (path : a.path = some root)
    (stopped : ((extraction a config terminal clock).run t root clock).result = .error f)
    : StopsFor a t terminal clock f

/-- How a program ends that some arguments make extract. -/
structure Ends (a : Arguments) (t : Tree) (terminal : Bool) (clock : Clock) (outcome : Outcome)
    : Prop where
  code
    : (outcome.exitCode = 1 ∧ ∃ f, StopsFor a t terminal clock f)
      ∨ (outcome.exitCode = 0 ∧ ¬ ∃ f, StopsFor a t terminal clock f)
  refuses
    : ∀ f, settings a t = .error f ↔
        Config.find t a.config = .error f
        ∨ ∃ found,
            Config.find t a.config = .ok found
            ∧ (found.overlay a.overrides).check t = .error f
  untouched : ∀ f, settings a t = .error f → outcome.tree = t
  extracts
    : ∀ found, Config.find t a.config = .ok found →
        (found.overlay a.overrides).check t = .ok () →
          ∃ root,
            a.path = some root
            ∧ outcome.tree
              = ((extraction a (found.overlay a.overrides) terminal clock).runAndTell t root
                  clock).tree
            ∧ outcome.printed
              = ((extraction a (found.overlay a.overrides) terminal clock).runAndTell t root
                  clock).printed
            ∧ (outcome.exitCode = 0 →
                ∃ report,
                  ((extraction a (found.overlay a.overrides) terminal clock).runAndTell t root
                      clock).result
                    = .ok report)
  tells
    : ∀ f, StopsFor a t terminal clock f →
        ∃ p ∈ outcome.printed,
          Console.TellsError
            (if (settings a t).toOption.isSome then a.mode.getD .human else .human) f.userMessage p
  tellsInMode
    : ∀ f, StopsFor a t terminal clock f →
        ((∃ p ∈ outcome.printed, Console.TellsError (a.mode.getD .human) f.userMessage p)
        ↔ a.mode.getD .human = .human ∨ ∃ config, settings a t = .ok config)

variable {arguments : List String} {a : Arguments} {t : Tree} {terminal : Bool} {clock : Clock}

/-- Arguments that are accepted give a path unless they ask for a sample of a settings file. -/
theorem exists_path (accepted : Arguments.ofList arguments = .ok a)
    (extracts : a.generateConfig = false)
    : ∃ root, a.path = some root := by
  have checked : ∃ settled : Arguments, settled.check = .ok a := by
    unfold Arguments.ofList at accepted
    cases read : arguments.foldlM Arguments.Reading.take {} with
    | error stop =>
      rw [read] at accepted
      cases accepted
    | ok reading =>
      rw [read] at accepted
      cases settled : reading.settle with
      | error stop => simp [settled, bind, Except.bind] at accepted
      | ok settled' => exact ⟨settled', by simpa [settled, bind, Except.bind] using accepted⟩
  obtain ⟨settled, checked⟩ := checked
  unfold Arguments.check at checked
  split_ifs at checked with nothing both missing
  obtain rfl := Except.ok.inj checked
  simpa [extracts, Option.ne_none_iff_exists'] using missing

/-- Settings are refused because no settings can be loaded or because those that were loaded, with
the given ones laid over them, cannot be used.
-/
theorem settings_eq_error_iff {f : Failure}
    : settings a t = .error f
      ↔ Config.find t a.config = .error f
        ∨ ∃ found,
            Config.find t a.config = .ok found
            ∧ (found.overlay a.overrides).check t = .error f := by
  unfold settings
  cases Config.find t a.config with
  | error failure => simp [bind, Except.bind]
  | ok found =>
    cases checked : (found.overlay a.overrides).check t <;> simp [checked, bind, Except.bind]

/-- Settings can be used if the loaded ones, with the given ones laid over them, can. -/
theorem settings_eq_ok_iff {c : Config}
    : settings a t = .ok c
      ↔ ∃ found,
          Config.find t a.config = .ok found
          ∧ (found.overlay a.overrides).check t = .ok ()
          ∧ found.overlay a.overrides = c := by
  unfold settings
  cases Config.find t a.config with
  | error failure => simp [bind, Except.bind]
  | ok found =>
    cases checked : (found.overlay a.overrides).check t <;> simp [checked, bind, Except.bind]

/-- What the program does if its settings cannot be used. -/
theorem extract_of_error {f : Failure} (refused : settings a t = .error f)
    : extract a t terminal clock
      = {
          exitCode := 1
          printed := (Console.ofOptions .human 0 false terminal clock.now).failure f
          tree := t
        } := by
  unfold extract
  rw [refused]

/-- What the program does if its settings can be used. -/
theorem extract_of_ok {c : Config} {root : String} (usable : settings a t = .ok c)
    (path : a.path = some root)
    : extract a t terminal clock
      = {
          exitCode :=
            if ((extraction a c terminal clock).run t root clock).result.toOption.isSome then 0
            else 1
          printed := ((extraction a c terminal clock).runAndTell t root clock).printed
          tree := ((extraction a c terminal clock).runAndTell t root clock).tree
        } := by
  unfold extract
  rw [usable, path]
  rfl

/-- With settings that cannot be used the program stops for that. -/
theorem StopsFor.eq_of_error {f g : Failure} (refused : settings a t = .error f)
    (stops : StopsFor a t terminal clock g)
    : g = f := by
  cases stops with
  | unusable other => exact Except.error.inj (other.symm.trans refused)
  | extraction usable path stopped => simp [refused] at usable

/-- With settings that can be used the program stops for what its extraction stops for. -/
theorem stopsFor_iff_of_ok {c : Config} {root : String} (usable : settings a t = .ok c)
    (path : a.path = some root) {f : Failure}
    : StopsFor a t terminal clock f
      ↔ ((extraction a c terminal clock).run t root clock).result = .error f := by
  constructor
  · intro stops
    cases stops with
    | unusable refused => simp [usable] at refused
    | extraction usable' path' stopped =>
      obtain rfl := Except.ok.inj (usable.symm.trans usable')
      obtain rfl := Option.some.inj (path.symm.trans path')
      exact stopped
  · exact .extraction usable path

/-- The program ends with the refusal of its settings. -/
theorem ends_of_error {f : Failure} (refused : settings a t = .error f)
    : Ends a t terminal clock (extract a t terminal clock) := by
  rw [extract_of_error refused]
  have people : (Console.ofOptions .human 0 false terminal clock.now).mode = .human := rfl
  have unusable (c : Config) : settings a t ≠ .ok c := by simp [refused]
  constructor
  case code => exact .inl ⟨rfl, f, .unusable refused⟩
  case refuses => exact fun f => settings_eq_error_iff
  case untouched => exact fun f _ => rfl
  case extracts =>
    intro found loaded checked
    exact absurd (settings_eq_ok_iff.mpr ⟨found, loaded, checked, rfl⟩) (unusable _)
  case tells =>
    intro g stops
    obtain rfl := stops.eq_of_error refused
    rw [refused]
    exact Console.exists_tellsError (.ofOptions .human 0 false terminal clock.now) g
  case tellsInMode =>
    intro g stops
    obtain rfl := stops.eq_of_error refused
    simp only [unusable, exists_false, or_false]
    constructor
    · rintro ⟨p, member, tells⟩
      by_contra other
      exact Console.not_tellsError_of_human people other member tells
    · intro same
      rw [same]
      exact Console.exists_tellsError (.ofOptions .human 0 false terminal clock.now) g

/-- The program ends with the end of its extraction. -/
theorem ends_of_ok {c : Config} {root : String} (usable : settings a t = .ok c)
    (path : a.path = some root)
    : Ends a t terminal clock (extract a t terminal clock) := by
  rw [extract_of_ok usable path]
  have stops {f : Failure} (stops : StopsFor a t terminal clock f) :=
    (stopsFor_iff_of_ok usable path).mp stops
  have told {f : Failure}
      (stopped : ((extraction a c terminal clock).run t root clock).result = .error f)
      : ∃ p ∈ ((extraction a c terminal clock).runAndTell t root clock).printed,
          Console.TellsError (a.mode.getD .human) f.userMessage p := by
    obtain ⟨p, member, tells⟩ :=
      Console.exists_tellsError (extraction a c terminal clock).console f
    refine ⟨p, List.mem_append_right _ ?_, tells⟩
    rw [stopped]
    exact member
  constructor
  case code =>
    cases ended : ((extraction a c terminal clock).run t root clock).result with
    | error f => exact .inl ⟨rfl, f, .extraction usable path ended⟩
    | ok report =>
      refine .inr ⟨rfl, ?_⟩
      rintro ⟨f, stopped⟩
      have failed := stops stopped
      simp [ended] at failed
  case refuses => exact fun f => settings_eq_error_iff
  case untouched =>
    intro f refused
    simp [usable] at refused
  case extracts =>
    intro found loaded checked
    have same := settings_eq_ok_iff.mpr ⟨found, loaded, checked, rfl⟩
    obtain rfl := Except.ok.inj (usable.symm.trans same)
    refine ⟨root, path, rfl, rfl, fun done => ?_⟩
    cases ended
        : ((extraction a (found.overlay a.overrides) terminal clock).run t root clock).result with
    | error f => simp [ended, Except.toOption] at done
    | ok report => exact ⟨report, ended⟩
  case tells =>
    intro f stopped
    rw [usable]
    exact told (stops stopped)
  case tellsInMode =>
    intro f stopped
    simp [usable, told (stops stopped)]

/-- The program ends as its arguments ask for it. -/
theorem run_ends (accepted : Arguments.ofList arguments = .ok a)
    (extracts : a.generateConfig = false) (t : Tree) (terminal : Bool) (clock : Clock)
    : Ends a t terminal clock (run arguments t terminal clock) := by
  obtain ⟨root, path⟩ := exists_path accepted extracts
  have runs : run arguments t terminal clock = extract a t terminal clock := by
    simp [run, accepted, extracts]
  rw [runs]
  cases used : settings a t with
  | error f => exact ends_of_error used
  | ok c => exact ends_of_ok used path

/-- Arguments that name a settings file, and ask for plain texts. -/
def plainArguments : List String :=
  ["src", "--config", "missing.toml", "--output-format", "plain"]

/-- What the arguments ask for. -/
def plainAsked : Arguments where
  path := some "src"
  config := some "missing.toml"
  mode := some .plain

/-- Without the settings file the program stops for that. -/
theorem stopsFor_missing (terminal : Bool) (clock : Clock)
    : StopsFor plainAsked (.ofTop []) terminal clock (.config (.fileNotFound "missing.toml")) := by
  refine .unusable (settings_eq_error_iff.mpr (.inl ?_))
  have absent : (Tree.ofTop []).pathExists "missing.toml" = false := by decide +kernel
  simp [plainAsked, Config.find, Config.load, absent]

/-- The program tells people that the settings file is missing. -/
theorem run_ends_missing
    : Arguments.ofList plainArguments = .ok plainAsked
      ∧ plainAsked.generateConfig = false
      ∧ Ends plainAsked (.ofTop []) false default (run plainArguments (.ofTop []) false default)
      ∧ StopsFor plainAsked (.ofTop []) false default (.config (.fileNotFound "missing.toml"))
      ∧ (run plainArguments (.ofTop []) false default).exitCode = 1
      ∧ (run plainArguments (.ofTop []) false default).printed
        = [⟨.err, "✗ Configuration error: Configuration file not found: missing.toml"⟩,
          ⟨.err, "Suggestion: Check your configuration file syntax and ensure all fields have "
            ++ "valid values."⟩] := by
  have accepted : Arguments.ofList plainArguments = .ok plainAsked :=
    eq_ok_of_toOption (by decide +kernel)
  exact ⟨accepted, rfl, run_ends accepted rfl (.ofTop []) false default, stopsFor_missing _ _,
    by decide +kernel, by decide +kernel⟩

/-- Not every failure is told in the mode that is asked for: in plain texts nothing is told in that
mode of a settings file that is missing.
-/
theorem not_every_failure_told_in_mode
    : ¬ ∀ (arguments : List String) (a : Arguments) (t : Tree) (terminal : Bool) (clock : Clock)
          (f : Failure),
          Arguments.ofList arguments = .ok a
          → a.generateConfig = false
          → StopsFor a t terminal clock f
          → ∃ p ∈ (run arguments t terminal clock).printed,
              Console.TellsError (a.mode.getD .human) f.userMessage p := by
  intro always
  have accepted : Arguments.ofList plainArguments = .ok plainAsked :=
    eq_ok_of_toOption (by decide +kernel)
  obtain ⟨p, member, tells⟩ :=
    always plainArguments plainAsked (.ofTop []) false default _ accepted rfl
      (stopsFor_missing false default)
  have printed
      : (run plainArguments (.ofTop []) false default).printed
        = (Console.ofOptions .human 0 false false default).failure
            (.config (.fileNotFound "missing.toml")) := by
    decide +kernel
  rw [printed] at member
  have people : (Console.ofOptions .human 0 false false default).mode = .human := rfl
  have plain : plainAsked.mode.getD .human ≠ .human := by decide
  exact Console.not_tellsError_of_human people plain member tells

end Program

end Casebook
