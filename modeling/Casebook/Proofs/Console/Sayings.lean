import Casebook.Proofs.Console.Telling
import Casebook.Proofs.Json.Lines
import Casebook.Proofs.Report.Reading
import Casebook.Proofs.Timestamp.Reading

/-! What is said in JSON. Each printed text is the form of one value, and what the run had to tell
is read back from the value: the text and level of a message, the text of a suggestion, the whole
report. Only a report with a path that is no text says nothing.
-/

namespace Casebook

/-- The readings of the clock are such as a clock gives. -/
structure Clock.InRange (clock : Clock) : Prop where
  now : clock.now.InRange
  elapsed : clock.elapsed.nanos < Duration.nanosPerSecond

/-- What one value in JSON says. -/
inductive Said where
  | message (level text : String)
  | suggestion (text : String)
  | report (r : Report)
  | nothing

/-- What a report is in JSON. One with a path that is no text has no fields. -/
def Report.printedJson (r : Report) : Json :=
  if r.isText then r.toJson else .object []

namespace Said

/-- What a value says. A report has no type, and all else that says anything names its own. -/
def ofJson? (j : Json) : Option Said :=
  match j.field? "type" with
  | some kind => do
    let text ← (← j.field? "message").text?
    match kind with
    | .string "message" => some (message (← (← j.field? "level").text?) text)
    | .string "suggestion" => some (suggestion text)
    | _ => none
  | none =>
    match j with
    | .object [] => some nothing
    | _ => (Report.ofJson? j).map report

/-- The stream that a thing is said on. Standard error has the errors only. -/
def stream : Said → Stream
  | message level _ => if level = "error" then .err else .out
  | suggestion _ | report _ | nothing => .out

/-- The thing is said on one line. -/
def isLine : Said → Bool
  | message .. | suggestion _ | nothing => true
  | report _ => false

end Said

/-- A printed text says a thing: it goes to the stream of the thing and is the form of a value that
is read as the thing, on one line where the thing is no report.
-/
structure Printed.Tells (p : Printed) (said : Said) : Prop where
  stream : p.stream = said.stream
  form : ∃ value, Json.IsForm p.text value ∧ Said.ofJson? value = some said
  line : said.isLine = true → '\n' ∉ p.text.toList

namespace Console

/-- The value of a message that is stamped with a time. -/
def messageJson (now : Timestamp) (level text : String) : Json :=
  .object [("level", .string level), ("message", .string text),
    ("timestamp", .string now.renderWithOffset), ("type", .string "message")]

theorem jsonMessage_eq (c : Console) (level text : String)
    : c.jsonMessage level text
      = ⟨(Said.message level text).stream, (messageJson c.now level text).render⟩ := by
  unfold jsonMessage
  by_cases isError : level = "error" <;> simp [Said.stream, isError, out, err, messageJson]

theorem nests_messageJson (now : Timestamp) (level text : String)
    : Json.Nests Json.maxDepth (messageJson now level text) := by
  simp [messageJson, Json.maxDepth]

/-- A message in JSON says its level and its text. -/
theorem jsonMessage_tells (c : Console) (level text : String)
    : (c.jsonMessage level text).Tells (.message level text) := by
  have nests := nests_messageJson c.now level text
  rw [jsonMessage_eq]
  constructor
  case stream => rfl
  case form =>
    refine ⟨_, nests.isForm_render, ?_⟩
    simp [messageJson, Said.ofJson?, Json.text?]
  case line =>
    intro _
    rw [Json.render, String.toList_ofList]
    exact nests.newline_not_mem_compact

end Console

/-- A report is nested three levels deep. -/
theorem Report.nests_toJson (r : Report)
    : Json.Nests Json.maxDepth r.toJson := by
  simp [toJson, summaryJson, caseJson, textsJson, settingsJson, Json.maxDepth]
  rintro _ _ _ n - - rfl
  exact .number n

/-- The readings of the clock in what is told are such as a clock gives. -/
def Telling.InRange : Telling → Prop
  | report r => Clock.InRange ⟨r.time, r.summary.elapsed⟩
  | _ => True

namespace Console

/-- A console in JSON prints a report by itself. -/
theorem report_of_json {c : Console} (json : c.mode = .json) (r : Report)
    : c.report r = [out r.printedJson.renderPretty] := by
  unfold report Report.printedJson
  rw [json]
  cases r.isText <;> rfl

end Console

-----------------------------------------------------------------------------------------
-- A whole run
-----------------------------------------------------------------------------------------

end Casebook
