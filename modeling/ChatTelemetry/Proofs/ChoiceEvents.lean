import ChatTelemetry.Proofs.Reference

/-!
This module shows that the events of choices say what a completion says of them, in the older of the
two shapes: a choice has a number there, and its message is a field of its own.
-/

namespace ChatTelemetry

namespace Emission

open Chat (Choice)
open Json (Value)
open Telemetry (Attribute Event)

/-! ### The two shapes -/

/-- The number of a choice goes, the fields of its message stand beside the others, and its content
is the parts. -/
def flattenField : String × Value → List (String × Value)
  | ("index", _) => []
  | ("message", .object fields) =>
    fields.map fun (key, v) => (if key = "content" then "parts" else key, v)
  | field => [field]

/-- The body of a choice event as an entry of a completion. -/
def flattened : Value → Value
  | .object fields => .object (fields.flatMap flattenField)
  | v => v

def withoutContentField : String × Value → String × Value
  | ("message", .object fields) =>
    ("message", .object (fields.filter fun (key, _) => key ≠ "content"))
  | field => field

/-- The body of a choice event without the content of its message. -/
def withoutContent : Value → Value
  | .object fields => .object (fields.map withoutContentField)
  | v => v

theorem index_choiceBody (capture : CaptureSettings) (position : Nat) (c : Choice)
    : (choiceBody capture position c).get? "index" = some (.int position) := by
  simp [choiceBody, Value.get?, List.lookup_cons]

theorem flattened_choiceBody {capture : CaptureSettings} (hcapture : capture.messageContent = true)
    (position : Nat) (c : Choice)
    : flattened (choiceBody capture position c) = c.toWire := by
  unfold choiceBody Choice.toWire
  cases c.message with
  | none => rfl
  | some m =>
    simp only [contentField, hcapture, if_true]
    rfl

theorem withoutContent_choiceBody {on off : CaptureSettings} (hon : on.messageContent = true)
    (hoff : off.messageContent = false) (position : Nat) (c : Choice)
    : withoutContent (choiceBody on position c) = choiceBody off position c := by
  unfold choiceBody
  cases c.message with
  | none => rfl
  | some m =>
    simp only [contentField, hon, hoff, if_true]
    rfl

/-! ### Choice events -/

def choiceBodies (capture : CaptureSettings) (output : List Choice) : List Value :=
  output.zipIdx.map fun (c, position) => choiceBody capture position c

theorem events_choices {w : World} (hw : w.isSuppressed = false) (e : Emitter)
    (attributes : List Attribute) (output : List Choice)
    : ((Call.mk e attributes (.choices output)).perform w).events
        =
      w.events ++ (choiceBodies e.capture output).map fun body =>
        ⟨Telemetry.choiceEvent, attributes, some body⟩ := by
  have hafter : (Call.mk e attributes (.choices output)).perform w = _ :=
    Emitter.choices_eq hw e attributes output
  rw [hafter, World.events_recordAll, Emitter.choicesEffects, choiceBodies, List.map_map]
  rw [List.filterMap_cons_none rfl, List.filterMap_map, ← List.filterMap_eq_map]
  rfl

theorem map_choiceBodies {capture : CaptureSettings} {f : Value → β} {g : Nat → Choice → β}
    (h : ∀ position c, f (choiceBody capture position c) = g position c) (output : List Choice)
    : (choiceBodies capture output).map f = output.zipIdx.map fun p => g p.2 p.1 := by
  rw [choiceBodies, List.map_map]
  apply List.map_congr_left
  rintro ⟨c, position⟩ _
  exact h position c

theorem index_choiceBodies (capture : CaptureSettings) (output : List Choice)
    : (choiceBodies capture output).map (·.get? "index")
        =
      (List.range output.length).map fun (position : Nat) => some (.int position) := by
  rw [map_choiceBodies (index_choiceBody capture)]
  rw [List.range_eq_range', ← List.zipIdx_map_snd, List.map_map]
  rfl

theorem flattened_choiceBodies {capture : CaptureSettings}
    (hcapture : capture.messageContent = true) (output : List Choice)
    : (choiceBodies capture output).map flattened = output.map Choice.toWire := by
  rw [map_choiceBodies (flattened_choiceBody hcapture)]
  nth_rewrite 2 [← List.zipIdx_map_fst 0 output]
  rw [List.map_map]
  rfl

theorem withoutContent_choiceBodies {on off : CaptureSettings} (hon : on.messageContent = true)
    (hoff : off.messageContent = false) (output : List Choice)
    : (choiceBodies on output).map withoutContent = choiceBodies off output :=
  map_choiceBodies (withoutContent_choiceBody hon hoff) output

theorem output_inlineBody (d : Details)
    : (inlineBody d).get? Telemetry.outputMessagesKey
        = some (.array (d.output.map Choice.toWire)) := by
  rfl

/--
Choices show one event each, numbered from zero. Where content may be recorded, their bodies are the
entries that a completion has for its output, but for the shape; where it may not be, they are the
same but for the content of the messages.
-/
theorem choice_events_follow_completion {on off : Emitter}
    (hon : on.capture.messageContent = true) (hoff : off.capture.messageContent = false)
    {w : World} (hw : w.isSuppressed = false) (attributes : List Attribute) (output : List Choice)
    : let event (body : Value) : Event := ⟨Telemetry.choiceEvent, attributes, some body⟩
      ∃ bodies : List Value,
        ((Call.mk on attributes (.choices output)).perform w).events
          = w.events ++ bodies.map event ∧
        bodies.length = output.length ∧
        bodies.map (·.get? "index")
          = (List.range output.length).map (fun (position : Nat) => some (.int position)) ∧
        (∀ (d : Details) (responseId : String), d.output = output → ∃ completion : Value,
          ((Call.mk on attributes (.completion d .inlined responseId)).perform w).events
            = w.events ++ [⟨Telemetry.completionDetailsEvent, attributes, some completion⟩] ∧
          completion.get? Telemetry.outputMessagesKey = some (.array (bodies.map flattened))) ∧
        ((Call.mk off attributes (.choices output)).perform w).events
          = w.events ++ (bodies.map withoutContent).map event := by
  intro event
  refine ⟨choiceBodies on.capture output, ?_, ?_, ?_, ?_, ?_⟩
  . exact events_choices hw on attributes output
  . rw [choiceBodies, List.length_map, List.length_zipIdx]
  . exact index_choiceBodies on.capture output
  . rintro d responseId rfl
    refine ⟨inlineBody d, ?_, ?_⟩
    . exact Emitter.events_completion_inlined hw hon (Call.performAt 1) attributes d responseId
    . rw [flattened_choiceBodies hon]
      exact output_inlineBody d
  . rw [withoutContent_choiceBodies hon hoff]
    exact events_choices hw off attributes output

/-- The second of two choices has no message. -/
theorem choice_events_follow_completion_without_a_message
    : let on : Emitter := { capture := { messageContent := true } }
      let output : List Choice :=
        [⟨.stop, some ⟨.assistant, [.text "a"]⟩⟩, ⟨.other "SAFETY", none⟩]
      let event (body : Value) : Event := ⟨Telemetry.choiceEvent, [], some body⟩
      World.blank.isSuppressed = false ∧
      ∃ bodies : List Value, bodies.length = 2 ∧
        ((Call.mk on [] (.choices output)).perform .blank).events = bodies.map event ∧
        ((Call.mk {} [] (.choices output)).perform .blank).events
          = (bodies.map withoutContent).map event ∧
        ∃ completion : Value,
          ((Call.mk on [] (.completion { output } .inlined "r")).perform .blank).events
            = [⟨Telemetry.completionDetailsEvent, [], some completion⟩] ∧
          completion.get? Telemetry.outputMessagesKey = some (.array (bodies.map flattened)) := by
  intro on output event
  obtain ⟨bodies, hon, hlength, _, hcompletion, hoff⟩ :=
    @choice_events_follow_completion on {} rfl rfl .blank rfl [] output
  exact ⟨rfl, bodies, hlength, hon, hoff, hcompletion { output } "r" rfl⟩

end Emission
end ChatTelemetry
