import Casebook.Console.Report

/-! What a run has to tell, apart from how it is printed. A console prints each thing that is told
by itself, so what two consoles print of the same run is compared thing by thing.
-/

namespace Casebook

/-- One thing that a run has to tell, whoever listens. -/
inductive Telling where
  | warning (text : String)
  | info (text : String)
  | debug (text : String)
  | start (operation : String)
  | failure (f : Failure)
  | report (r : Report)

namespace Printed

/-- The texts that some printed texts put on a stream, in their order. -/
def textsOn (stream : Stream) (printed : List Printed) : List String :=
  (printed.filter (·.stream = stream)).map (·.text)

theorem textsOn_sublist {less more : List Printed} (within : less.Sublist more) (stream : Stream)
    : (textsOn stream less).Sublist (textsOn stream more) :=
  (within.filter _).map _

end Printed

namespace Console

/-- Prints a thing that is told, as far as it is shown. -/
def tell (c : Console) : Telling → List Printed
  | .warning text => c.warning text
  | .info text => c.info text
  | .debug text => c.debug text
  | .start operation => c.start operation
  | .failure f => c.failure f
  | .report r => c.report r

/-- A text beside the messages, with a level of its own in JSON. -/
def aside (c : Console) (level text colored bare plain : String) : Printed :=
  match c.mode with
  | .human => if c.colors then out colored else out bare
  | .json => c.jsonMessage level text
  | .plain => out plain

theorem debug_eq (c : Console) (text : String)
    : c.debug text
      = if c.shows 2 then
          [c.aside "debug" text ("  " ++ styled [.dim] text) ("  DEBUG: " ++ text)
            ("DEBUG: " ++ text)]
        else [] := by
  obtain ⟨mode, colors, -, -, -⟩ := c
  cases mode <;> cases colors <;> rfl

theorem start_eq (c : Console) (operation : String)
    : c.start operation
      = if c.shows 1 then
          [c.aside "operation_start" operation ("🚀 " ++ styled [.bold] operation)
            ("> " ++ operation) ("STARTING: " ++ operation)]
        else [] := by
  obtain ⟨mode, colors, -, -, -⟩ := c
  cases mode <;> cases colors <;> rfl

/-- The lines of a report for people, between the two lines that part it from all else. -/
def humanLines (c : Console) (r : Report) : List String :=
  [c.headline r.dryRun, ""] ++ c.summaryLines r ++ c.sourceLines r.summary ++ c.caseLines r
    ++ if r.hasWarnings then [s!"  Warnings:        {r.warnings.length}"] else []

theorem humanReport_eq (c : Console) (r : Report)
    : c.humanReport r = c.separator ++ (c.humanLines r).map out ++ c.separator :=
  rfl

end Console

end Casebook
