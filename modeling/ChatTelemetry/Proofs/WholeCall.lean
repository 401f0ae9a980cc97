import ChatTelemetry.Proofs.Reentrance
import Mathlib.Data.List.Basic

/-!
This module shows that a whole call is its prompts and its completion one after another, and that
the user prompts in it show the content that the completion has for them.
-/

namespace ChatTelemetry

namespace Emission

open Chat (Message)
open Json (Value)
open Telemetry (Attribute Event)

def Details.userInput (d : Details) : List Message :=
  d.input.filter (·.role = .user)

/-- The operations that a whole call stands for. -/
def separateCalls (e : Emitter) (attributes : List Attribute) (d : Details) (responseId : String)
    : List Call :=
  (d.systemInstructions.getD []).map (fun m => ⟨e, attributes, .systemPrompt m⟩) ++
    d.userInput.map (fun m => ⟨e, attributes, .userPrompt m⟩) ++
    [⟨e, attributes, .completion d e.capture.mode responseId⟩]

/-! ### One operation after another -/

theorem Call.performAll_map_eq_recordAll {f : α → Call} {g : α → List Effect}
    (h : ∀ w a, w.isSuppressed = false → (f a).perform w = w.recordAll (g a)) (as : List α)
    {w : World} (hw : w.isSuppressed = false)
    : Call.performAll (as.map f) w = w.recordAll (as.flatMap g) := by
  unfold Call.performAll
  rw [List.foldl_map]
  exact World.foldl_eq_recordAll h as w hw

theorem Call.perform_call_eq {w : World} (hw : w.isSuppressed = false) (e : Emitter)
    (attributes : List Attribute) (d : Details) (responseId : String)
    : (Call.mk e attributes (.call d responseId)).perform w
        =
      Call.performAll (separateCalls e attributes d responseId) w := by
  have hsystem := Call.performAll_map_eq_recordAll (f := fun m => ⟨e, attributes, .systemPrompt m⟩)
    (fun _ m h => Emitter.systemPrompt_eq h e attributes m) (d.systemInstructions.getD []) hw
  have husers := @Call.performAll_map_eq_recordAll _ (fun m => ⟨e, attributes, .userPrompt m⟩) _
    (fun _ m h => Emitter.userPrompt_eq h e attributes m) d.userInput
  rw [separateCalls, Call.performAll_append, Call.performAll_append, hsystem]
  rw [husers (by simpa using hw)]
  rw [World.recordAll_recordAll, ← d.getD_system?]
  exact Emitter.call_eq hw (Call.performAt 1) e attributes d responseId

/-! ### Events -/

namespace Emitter

def systemEvent (e : Emitter) (attributes : List Attribute) (m : Message) : Event :=
  ⟨Telemetry.systemMessageEvent, attributes, some (promptBody e.capture .system m)⟩

def userEvent (e : Emitter) (attributes : List Attribute) (m : Message) : Event :=
  ⟨Telemetry.userMessageEvent, attributes, some (promptBody e.capture .user m)⟩

theorem events_promptsEffects (e : Emitter) (attributes : List Attribute) (d : Details)
    : (e.promptsEffects attributes d).filterMap Effect.event?
        =
      (d.systemInstructions.getD []).map (e.systemEvent attributes) ++
        d.userInput.map (e.userEvent attributes) := by
  unfold promptsEffects
  rw [List.filterMap_append, List.filterMap_flatMap, List.filterMap_flatMap, d.getD_system?]
  rw [List.map_eq_flatMap, List.map_eq_flatMap]
  rfl

/-- A completion shows one event; where content is recorded in it, with all of it as its body. -/
theorem events_completion {nested : Call → World → World}
    (hnested : ∀ c w, w.isSuppressed = true → nested c w = w) {w : World}
    (hw : w.isSuppressed = false) (e : Emitter) (attributes : List Attribute) (d : Details)
    (mode : Mode) (responseId : String)
    : ∃ body,
        (e.completion nested attributes d mode responseId w).events
          = w.events ++ [⟨Telemetry.completionDetailsEvent, attributes, body⟩] ∧
        (e.capture.messageContent = true → mode = .inlined → body = some (inlineBody d)) := by
  by_cases hinlined : e.capture.messageContent = true ∧ mode = .inlined
  . obtain ⟨hcapture, rfl⟩ := hinlined
    refine ⟨some (inlineBody d), ?_, fun _ _ => rfl⟩
    exact events_completion_inlined hw hcapture nested attributes d responseId
  . obtain ⟨_, ⟨body, hevents⟩, _⟩ := e.completion_shows hnested hw attributes d mode responseId
    exact ⟨body, hevents, fun hcapture hmode => absurd ⟨hcapture, hmode⟩ hinlined⟩

end Emitter

theorem content_promptBody {capture : CaptureSettings} (hcapture : capture.messageContent = true)
    (role : Chat.Role) (m : Message)
    : (promptBody capture role m).get? "content" = some (Chat.partsToWire m.parts) := by
  simp [promptBody, contentField, hcapture, Value.get?]

theorem input_inlineBody (d : Details)
    : (inlineBody d).get? Telemetry.inputMessagesKey = some (Chat.messagesToWire d.input) := by
  simp [inlineBody, Value.get?]

theorem parts_toWire (m : Message) : m.toWire.get? "parts" = some (Chat.partsToWire m.parts) := by
  simp [Message.toWire, Value.get?]

/-- What a wire form has for the messages that satisfy a condition, read off by their places. -/
theorem filter_zip_toWire (input : List Message) (p : Message → Bool) (f : Value → β)
    : ((input.zip (input.map Message.toWire)).filter (fun q => p q.1)).map (fun q => f q.2)
        =
      (input.filter p).map fun m => f m.toWire := by
  rw [← List.map_prod_left_eq_zip, List.filter_map, List.map_map]
  rfl

/--
The events that a whole call shows: those of its system prompts, those of its user prompts, and one
that completes it. Only this one is named as a completion, and all of them have the attributes of
the call.
-/
structure ShowsCall (attributes : List Attribute) (d : Details) (system users : List Event)
    (last : Event) : Prop where
  attributes_eq : ∀ event ∈ system ++ users ++ [last], event.attributes = attributes
  length_system : system.length = (d.systemInstructions.getD []).length
  name_system : ∀ event ∈ system, event.name = Telemetry.systemMessageEvent
  length_users : users.length = d.userInput.length
  name_users : ∀ event ∈ users, event.name = Telemetry.userMessageEvent
  name_last : last.name = Telemetry.completionDetailsEvent
  only_last : ∀ event ∈ system ++ users, event.name ≠ Telemetry.completionDetailsEvent

theorem Emitter.showsCall (e : Emitter) (attributes : List Attribute) (d : Details)
    (body : Option Value)
    : ShowsCall attributes d ((d.systemInstructions.getD []).map (e.systemEvent attributes))
        (d.userInput.map (e.userEvent attributes))
        ⟨Telemetry.completionDetailsEvent, attributes, body⟩ where
  attributes_eq := by
    simp only [List.mem_append, List.mem_map, List.mem_singleton]
    rintro event ((⟨m, _, rfl⟩ | ⟨m, _, rfl⟩) | rfl) <;> rfl
  length_system := List.length_map ..
  name_system := by
    simp only [List.mem_map]
    rintro event ⟨m, _, rfl⟩
    rfl
  length_users := List.length_map ..
  name_users := by
    simp only [List.mem_map]
    rintro event ⟨m, _, rfl⟩
    rfl
  name_last := rfl
  only_last := by
    simp only [List.mem_append, List.mem_map]
    rintro event (⟨m, _, rfl⟩ | ⟨m, _, rfl⟩)
    . exact show Telemetry.systemMessageEvent ≠ Telemetry.completionDetailsEvent by decide
    . exact show Telemetry.userMessageEvent ≠ Telemetry.completionDetailsEvent by decide

/--
A whole call does to the world what its system prompts, the prompts of its user messages and its
completion do to it one after another. Where content is recorded in the completion itself, each user
prompt shows as its content the parts that the completion has for its message.
-/
theorem whole_call_is_its_separate_operations {w : World} (hw : w.isSuppressed = false)
    (e : Emitter) (attributes : List Attribute) (d : Details) (responseId : String)
    : let whole := (Call.mk e attributes (.call d responseId)).perform w
      whole = Call.performAll (separateCalls e attributes d responseId) w ∧
      ∃ (system users : List Event) (last : Event),
        whole.events = w.events ++ (system ++ users ++ [last]) ∧
        ShowsCall attributes d system users last ∧
        (e.capture.messageContent = true → e.capture.mode = .inlined →
          let parts := d.userInput.map fun m => some (Chat.partsToWire m.parts)
          users.map (fun event => event.body.bind (·.get? "content")) = parts ∧
          ∃ inputs : List Value,
            last.body.bind (·.get? Telemetry.inputMessagesKey) = some (.array inputs) ∧
            inputs.length = d.input.length ∧
            ((d.input.zip inputs).filter (·.1.role = .user)).map (·.2.get? "parts") = parts) := by
  intro whole
  refine ⟨Call.perform_call_eq hw e attributes d responseId, ?_⟩
  have hcall : whole = _ := Emitter.call_eq hw (Call.performAt 1) e attributes d responseId
  obtain ⟨body, hevents, hbody⟩ := e.events_completion (Call.performAt_of_suppressed 1)
    (show (w.recordAll (e.promptsEffects attributes d)).isSuppressed = false from hw)
    attributes d e.capture.mode responseId
  rw [← hcall, World.events_recordAll, e.events_promptsEffects, List.append_assoc] at hevents
  refine ⟨_, _, _, hevents, e.showsCall attributes d body, ?_⟩
  intro hcapture hmode
  obtain rfl := hbody hcapture hmode
  refine ⟨?_, d.input.map Message.toWire, input_inlineBody d, List.length_map .., ?_⟩
  . rw [List.map_map]
    apply List.map_congr_left
    intro m _
    exact content_promptBody hcapture .user m
  . rw [filter_zip_toWire d.input (·.role = .user) (·.get? "parts")]
    apply List.map_congr_left
    intro m _
    exact parts_toWire m

/-- Of three input messages one has a role that only reads like that of a user. -/
theorem whole_call_is_its_separate_operations_with_another_user
    : let e : Emitter := { measures := true, capture := { messageContent := true } }
      let d : Details :=
        { systemInstructions := some [⟨.system, []⟩]
          input := [⟨.user, [.text "a"]⟩, ⟨.other "user", [.text "b"]⟩, ⟨.user, [.unknown]⟩] }
      let call (operation : Operation) : Call := ⟨e, [⟨"k", .int 1⟩, ⟨"k", .int 1⟩], operation⟩
      let whole := (call (.call d "r")).perform .blank
      World.blank.isSuppressed = false ∧
      whole = Call.performAll
        [ call (.systemPrompt ⟨.system, []⟩), call (.userPrompt ⟨.user, [.text "a"]⟩),
          call (.userPrompt ⟨.user, [.unknown]⟩), call (.completion d .inlined "r") ] .blank ∧
      ∃ (system users : List Event) (last : Event),
        whole.events = system ++ users ++ [last] ∧
        users.map (fun event => event.body.bind (·.get? "content"))
          = [some (Chat.partsToWire [.text "a"]), some (Chat.partsToWire [.unknown])] := by
  intro e d call whole
  obtain ⟨hwhole, system, users, last, hevents, _, hcontents⟩ :=
    @whole_call_is_its_separate_operations .blank rfl e [⟨"k", .int 1⟩, ⟨"k", .int 1⟩] d "r"
  exact ⟨rfl, hwhole, system, users, last, hevents, (hcontents rfl rfl).1⟩

end Emission
end ChatTelemetry
