import Casebook.Console.Basic
import Casebook.Proofs.Walk.Skipping

/-! What messages begin with. In every mode a message begins with a front of its kind and then with
what its text begins with, so messages of different kinds, or of texts that begin differently, are
told apart.
-/

namespace Casebook

/-- A text stays as it is in JSON: nothing in it is escaped. -/
def Json.StaysAsIs (text : String) : Prop :=
  text.toList.flatMap Json.escapedChar = text.toList

namespace Console

/-- The message in JSON up to the text of its level. -/
def levelFront (level : String) : String :=
  "\x7b\"level\":\"" ++ level ++ "\""

/-- What every message of a kind begins with. -/
def front (c : Console) (kind : Kind) : String :=
  match c.mode with
  | .human =>
    if c.colors then kind.picture ++ String.join (kind.styles.map Style.code) else kind.sign ++ " "
  | .json => levelFront kind.level ++ ",\"message\":\""
  | .plain => kind.word ++ ": "

variable {c : Console} {kind : Kind} {level text start : String}

/-- A message in JSON names its level first and its text behind that. -/
private theorem toList_jsonMessage (c : Console) (level text : String)
    : ∃ rest,
        (c.jsonMessage level text).text.toList
        = "\x7b\"level\":".toList ++ Json.quoted level ++ ",\"message\":".toList
          ++ Json.quoted text ++ rest := by
  have sameText : (c.jsonMessage level text).text
      = (Json.object [
          ("level", .string level),
          ("message", .string text),
          ("timestamp", .string c.now.renderWithOffset),
          ("type", .string "message")]).render := by
    unfold jsonMessage
    split <;> rfl
  refine ⟨',' :: Json.compactFields
      [("timestamp", .string c.now.renderWithOffset), ("type", .string "message")] ++ ['\x7d'], ?_⟩
  have levelKey : Json.quoted "level" = "\"level\"".toList := by decide +kernel
  have messageKey : Json.quoted "message" = "\"message\"".toList := by decide +kernel
  rw [sameText, Json.render, String.toList_ofList, Json.compact, Json.compactFields,
    Json.compactFields, levelKey, messageKey, Json.compact, Json.compact]
  · simp only [List.append_assoc, List.cons_append]
    rfl
  all_goals nofun

/-- A message in JSON begins with its level. -/
theorem jsonMessage_beginsWith_level (c : Console) (text : String) (stays : Json.StaysAsIs level)
    : Text.BeginsWith (c.jsonMessage level text).text (levelFront level) := by
  obtain ⟨rest, same⟩ := toList_jsonMessage c level text
  rw [Text.BeginsWith, same, Json.quoted, stays, levelFront]
  refine ⟨",\"message\":".toList ++ Json.quoted text ++ rest, ?_⟩
  simp only [String.toList_append, List.append_assoc, List.cons_append]
  rfl

theorem staysAsIs_level (kind : Kind)
    : Json.StaysAsIs kind.level := by
  unfold Json.StaysAsIs
  cases kind <;> decide +kernel

/-- A message begins with the front of its kind, and then as its text does. -/
theorem message_beginsWith (begins : Text.BeginsWith text start) (stays : Json.StaysAsIs start)
    : Text.BeginsWith (c.message kind text).text (c.front kind ++ start) := by
  obtain ⟨more, made⟩ := begins
  rw [Text.BeginsWith, message, front]
  cases c.mode with
  | human =>
    dsimp only
    cases c.colors with
    | true =>
      refine ⟨more ++ "\x1b[0m".toList, ?_⟩
      simp only [if_true, styled, String.toList_append, ← made, List.append_assoc]
    | false =>
      refine ⟨more, ?_⟩
      simp only [Bool.false_eq_true, if_false, String.toList_append, ← made, List.append_assoc]
  | plain =>
    refine ⟨more, ?_⟩
    simp only [String.toList_append, ← made, List.append_assoc]
  | json =>
    obtain ⟨rest, same⟩ := toList_jsonMessage c kind.level text
    dsimp only
    rw [same, Json.quoted, staysAsIs_level, Json.quoted, ← made, List.flatMap_append, stays]
    refine ⟨more.flatMap Json.escapedChar ++ ['"'] ++ rest, ?_⟩
    simp only [levelFront, String.toList_append, List.append_assoc, List.cons_append]
    rfl

/-- Outside of JSON a message goes to the stream of its kind. -/
theorem stream_message (notJson : c.mode ≠ .json)
    : (c.message kind text).stream = kind.stream := by
  unfold message
  split
  next => split <;> rfl
  next json => exact absurd json notJson
  next => rfl

/-- What is printed is told apart from every warning: by its stream, or by its level in JSON. -/
structure IsNoWarning (c : Console) (p : Printed) : Prop where
  stream : c.mode ≠ .json → p.stream = .out
  level
    : c.mode = .json →
        ∃ level,
          Text.BeginsWith p.text (levelFront level)
          ∧ ¬ (levelFront level).toList <+: (levelFront "warning").toList
          ∧ ¬ (levelFront "warning").toList <+: (levelFront level).toList

variable {p : Printed}

theorem IsNoWarning.ne (noWarning : c.IsNoWarning p) (text : String)
    : p ≠ c.message .warning text := by
  rintro rfl
  by_cases json : c.mode = .json
  · obtain ⟨level, begins, unlike⟩ := noWarning.level json
    have isWarning : c.message .warning text = c.jsonMessage "warning" text := by
      rw [message, json]
      rfl
    rw [isWarning] at begins
    exact begins.unlike unlike (c.jsonMessage_beginsWith_level text (staysAsIs_level .warning))
  · exact absurd ((stream_message json).symm.trans (noWarning.stream json)) nofun

theorem isNoWarning_of_mem_info (member : p ∈ c.info text)
    : c.IsNoWarning p := by
  unfold info at member
  split at member
  next =>
    obtain rfl := List.mem_singleton.mp member
    refine ⟨fun notJson => stream_message notJson, fun json => ⟨"info", ?_, by decide +kernel⟩⟩
    rw [message, json]
    exact c.jsonMessage_beginsWith_level text (staysAsIs_level .info)
  next => cases member

/-- What is printed on standard output, and in JSON with a level of its own, is no warning. -/
private theorem isNoWarning_of_mem {colored bare plain : String} (stays : Json.StaysAsIs level)
    (unlike
      : ¬ (levelFront level).toList <+: (levelFront "warning").toList
        ∧ ¬ (levelFront "warning").toList <+: (levelFront level).toList)
    (member
      : p ∈ (match c.mode with
          | .human => if c.colors then [out colored] else [out bare]
          | .json => [c.jsonMessage level text]
          | .plain => [out plain]))
    : c.IsNoWarning p := by
  refine ⟨fun notJson => ?_, fun json => ⟨level, ?_, unlike⟩⟩
  · split at member
    next =>
      split at member
      next => rw [List.mem_singleton.mp member, out]
      next => rw [List.mem_singleton.mp member, out]
    next json => exact absurd json notJson
    next => rw [List.mem_singleton.mp member, out]
  · rw [json] at member
    rw [List.mem_singleton.mp member]
    exact c.jsonMessage_beginsWith_level text stays

theorem isNoWarning_of_mem_start (member : p ∈ c.start text)
    : c.IsNoWarning p := by
  unfold start at member
  split at member
  next =>
    have stays : Json.StaysAsIs "operation_start" := by
      unfold Json.StaysAsIs
      decide +kernel
    exact isNoWarning_of_mem stays (by decide +kernel) member
  next => cases member

theorem isNoWarning_of_mem_debug (member : p ∈ c.debug text)
    : c.IsNoWarning p := by
  unfold debug at member
  split at member
  next =>
    have stays : Json.StaysAsIs "debug" := by
      unfold Json.StaysAsIs
      decide +kernel
    exact isNoWarning_of_mem stays (by decide +kernel) member
  next => cases member

end Console

end Casebook
