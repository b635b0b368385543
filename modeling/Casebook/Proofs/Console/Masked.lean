import Casebook.Proofs.Console.Sayings
import Casebook.Proofs.Extraction.Tellings

/-! What is printed, with the readings of the clock masked. Only messages in JSON and the reports
hold such readings, and masked they are the same at all times.
-/

namespace Casebook

/-- What stands for a reading of the clock. -/
def clockMark : String := "<time>"

namespace Json

/-- The fields with the values of some of them masked. -/
def maskFields (keys : List String) (fields : List (String × Json)) : List (String × Json) :=
  fields.map fun (key, value) => (key, if key ∈ keys then .string clockMark else value)

/-- A summary without the time that the run took. -/
def maskSummary : Json → Json
  | object fields => .object (maskFields ["extraction_duration"] fields)
  | other => other

/-- A message or report without the time at which it was made, and without the time that the run
took.
-/
def masked : Json → Json
  | object fields =>
    .object
      (maskFields ["timestamp", "extraction_time"]
        (fields.map fun (key, value) =>
          (key, if key = "extraction_summary" then value.maskSummary else value)))
  | other => other

end Json

/-- A text that begins with a front is cut behind it. -/
def maskBehind (front text : String) : String :=
  if front.toList.isPrefixOf text.toList then front ++ clockMark else text

/-- A text that is a form of a value is masked as that form of the masked value. -/
def Json.maskText (text : String) : String :=
  match Json.ofText? text with
  | some value =>
    if text = value.render then value.masked.render
    else if text = value.renderPretty then value.masked.renderPretty
    else text
  | none => text

/-- A text that is printed in a mode, with the readings of the clock masked. -/
def Mode.masked (mode : Mode) (text : String) : String :=
  match mode with
  | .human => maskBehind "  Time taken:      " text
  | .plain => maskBehind "Duration: " text
  | .json => Json.maskText text

/-- What is printed in a mode, with the readings of the clock masked. -/
def Printed.masked (mode : Mode) (p : Printed) : Printed :=
  { p with text := mode.masked p.text }

theorem maskBehind_append (front rest : String)
    : maskBehind front (front ++ rest) = front ++ clockMark := by
  simp [maskBehind]

namespace Json

variable {value : Json}

theorem maskText_render (nests : Nests maxDepth value)
    : maskText value.render = value.masked.render := by
  simp [maskText, nests.isForm_render.ofText?]

/-- A form over several lines is not the short form, which has no line feed. -/
theorem maskText_renderPretty (nests : Nests maxDepth value) (several : '\n' ∈ value.prettyAt 0)
    : maskText value.renderPretty = value.masked.renderPretty := by
  have other : value.renderPretty ≠ value.render := by
    intro same
    have compact := nests.newline_not_mem_compact
    rw [renderPretty, render, String.ofList_inj] at same
    exact compact (same ▸ several)
  simp [maskText, nests.isForm_renderPretty.ofText?, other]

end Json

theorem Report.maskText_printedJson (r : Report) (clock : Clock)
    : Json.maskText r.printedJson.renderPretty
      = Json.maskText (r.timed clock).printedJson.renderPretty := by
  cases isText : r.isText with
  | false =>
    have sameAtAnyTime : (r.timed clock).isText = false := isText
    rw [printedJson, printedJson, isText, sameAtAnyTime]
    rfl
  | true =>
  have sameAtAnyTime : (r.timed clock).isText = true := isText
  rw [printedJson, printedJson, isText, sameAtAnyTime, if_pos rfl, if_pos rfl]
  have several (r : Report) : '\n' ∈ r.toJson.prettyAt 0 := by
    simp [toJson, Json.prettyAt, Json.newLine]
  rw [Json.maskText_renderPretty r.nests_toJson (several r),
    Json.maskText_renderPretty (r.timed clock).nests_toJson (several _)]
  simp [toJson, timed, summaryJson, Json.masked, Json.maskFields, Json.maskSummary]

namespace Console

/-- The console at another time. -/
def atTime (c : Console) (now : Timestamp) : Console :=
  { c with now := now }

variable (c : Console) (clock : Clock)

/-- A message in JSON is the same at all times. -/
theorem maskText_messageJson (now other : Timestamp) (level text : String)
    : Json.maskText (messageJson now level text).render
      = Json.maskText (messageJson other level text).render := by
  rw [Json.maskText_render (nests_messageJson now level text),
    Json.maskText_render (nests_messageJson other level text)]
  simp [messageJson, Json.masked, Json.maskFields]

theorem masked_jsonMessage (level text : String)
    : (c.jsonMessage level text).masked .json
      = ((c.atTime clock.now).jsonMessage level text).masked .json := by
  simp only [jsonMessage_eq, Printed.masked, Mode.masked]
  rw [maskText_messageJson c.now clock.now]
  rfl

theorem masked_message (kind : Kind) (text : String)
    : (c.message kind text).masked c.mode
      = ((c.atTime clock.now).message kind text).masked c.mode := by
  have json := c.masked_jsonMessage clock kind.level text
  obtain ⟨mode, colors, verbosity, quiet, now⟩ := c
  cases mode with
  | human => rfl
  | plain => rfl
  | json => exact json

theorem masked_aside (level text colored bare plain : String)
    : (c.aside level text colored bare plain).masked c.mode
      = ((c.atTime clock.now).aside level text colored bare plain).masked c.mode := by
  have json := c.masked_jsonMessage clock level text
  obtain ⟨mode, colors, verbosity, quiet, now⟩ := c
  cases mode with
  | human => rfl
  | plain => rfl
  | json => exact json

theorem masked_lines {mode : Mode} {first second : List String}
    (same : first.map mode.masked = second.map mode.masked)
    : (first.map out).map (Printed.masked mode) = (second.map out).map (Printed.masked mode) := by
  have each (lines : List String)
      : (lines.map out).map (Printed.masked mode) = (lines.map mode.masked).map out := by
    simp only [List.map_map]
    rfl
  rw [each, each, same]

/-- Only one line of a report for people hangs on the clock. -/
theorem masked_humanReport (r : Report)
    : (c.humanReport r).map (Printed.masked .human)
      = ((c.atTime clock.now).humanReport (r.timed clock)).map (Printed.masked .human) := by
  have summary
      : (c.summaryLines r).map Mode.human.masked
        = ((c.atTime clock.now).summaryLines (r.timed clock)).map Mode.human.masked := by
    simp only [summaryLines, List.map_append, List.map_cons, Mode.masked, maskBehind_append]
    rfl
  have lines
      : (c.humanLines r).map Mode.human.masked
        = ((c.atTime clock.now).humanLines (r.timed clock)).map Mode.human.masked := by
    simp only [humanLines, List.map_append, summary]
    rfl
  simp only [humanReport_eq, List.map_append, masked_lines lines]
  rfl

/-- Only one line of a plain report hangs on the clock. -/
theorem masked_plainLines (r : Report)
    : (c.plainLines r).map Mode.plain.masked
      = ((c.atTime clock.now).plainLines (r.timed clock)).map Mode.plain.masked := by
  have duration (text : String) : s!"Duration: {text}" = "Duration: " ++ text :=
    rfl
  simp only [plainLines, List.map_append, List.map_cons, duration, Mode.masked, maskBehind_append]
  rfl

/-- A report is the same at all times. -/
theorem masked_report (r : Report)
    : (c.report r).map (Printed.masked c.mode)
      = ((c.atTime clock.now).report (r.timed clock)).map (Printed.masked c.mode) := by
  have people := c.masked_humanReport clock r
  have plain := masked_lines (c.masked_plainLines clock r)
  have json (isJson : c.mode = .json)
      : (c.report r).map (Printed.masked .json)
        = ((c.atTime clock.now).report (r.timed clock)).map (Printed.masked .json) := by
    rw [report_of_json isJson, report_of_json (c := c.atTime clock.now) isJson]
    simp only [out, List.map_cons, List.map_nil, Printed.masked, Mode.masked]
    rw [r.maskText_printedJson clock]
  obtain ⟨mode, colors, verbosity, quiet, now⟩ := c
  cases mode with
  | json => exact json rfl
  | human =>
    cases quiet with
    | true => rfl
    | false => exact people
  | plain =>
    cases quiet with
    | true => rfl
    | false => exact plain

/-- What a console prints of a thing that is told is the same at all times. -/
theorem masked_tell (telling : Telling)
    : (c.tell telling).map (Printed.masked c.mode)
      = ((c.atTime clock.now).tell (telling.timed clock)).map (Printed.masked c.mode) := by
  have shown {level : Nat} {p q : Printed} (same : p.masked c.mode = q.masked c.mode)
      : (if c.shows level then [p] else []).map (Printed.masked c.mode)
        = (if (c.atTime clock.now).shows level then [q] else []).map (Printed.masked c.mode) := by
    have showsSame : (c.atTime clock.now).shows level = c.shows level := rfl
    rw [showsSame]
    split
    · simp [same]
    · rfl
  cases telling with
  | warning text => exact shown (c.masked_message clock .warning text)
  | info text => exact shown (c.masked_message clock .info text)
  | debug text =>
    simp only [tell, Telling.timed, debug_eq]
    exact shown (c.masked_aside clock ..)
  | start operation =>
    simp only [tell, Telling.timed, start_eq]
    exact shown (c.masked_aside clock ..)
  | failure f =>
    have error := c.masked_message clock .error f.userMessage
    simp only [tell, Telling.timed, failure, Console.error, List.map_append, List.map_cons, error]
    rfl
  | report r => exact c.masked_report clock r

end Console

end Casebook
