import ChatTelemetry.Chat.Wire
import ChatTelemetry.Storage.Upload
/-!
Events, measurements and uploads of emitters.

Every operation does nothing while telemetry is suppressed.
-/

namespace ChatTelemetry.Emission

open Chat (Message Choice Role)
open Json (Value)
open Telemetry (Attribute)

def logTarget : String := "promptwire_emit::emitter"

def debugLog (message : String) (fields : List (String × Log.FieldValue)) : Log.Event :=
  ⟨.debug, logTarget, message, fields⟩

/-! ### Bodies -/

/-- The parts of a message, where they may be recorded. -/
def contentField (capture : CaptureSettings) (m : Message) : List (String × Value) :=
  if capture.messageContent then [("content", Chat.partsToWire m.parts)] else []

def promptBody (capture : CaptureSettings) (role : Role) (m : Message) : Value :=
  .object (contentField capture m ++ [("role", .string role.text)])

def choiceBody (capture : CaptureSettings) (position : Nat) (c : Choice) : Value :=
  let message := match c.message with
    | none => []
    | some m => [("message", .object (contentField capture m ++ [("role", .string m.role.text)]))]
  .object ([("finish_reason", .string c.finishReason.text), ("index", .int position)] ++ message)

def inlineBody (d : Details) : Value :=
  let system := match d.system? with
    | none => []
    | some messages => [(Telemetry.systemInstructionsKey, Chat.messagesToWire messages)]
  .object ([ (Telemetry.inputMessagesKey, Chat.messagesToWire d.input),
    (Telemetry.outputMessagesKey, Chat.choicesToWire d.output) ] ++ system)

namespace Emitter

def referenceBody (nested : Call → World → World) (e : Emitter) (d : Details) (responseId : String)
    (w : World) : Value × World :=
  let store := e.storage.store nested
  let (input, w) := store (responseId ++ "_input.json") (Chat.messagesToWire d.input) w
  let (output, w) := store (responseId ++ "_output.json") (Chat.choicesToWire d.output) w
  let (system, w) := match d.system? with
    | none => ([], w)
    | some messages =>
      let (locator, w) :=
        store (responseId ++ "_system_instructions.json") (Chat.messagesToWire messages) w
      ([(Telemetry.systemInstructionsRefKey, Value.string locator)], w)
  (.object ([ (Telemetry.inputMessagesRefKey, .string input),
    (Telemetry.outputMessagesRefKey, .string output) ] ++ system), w)

/-! ### Operations -/

/-- Does something unless telemetry is suppressed. -/
def unlessSuppressed (w : World) (f : World → World) : World :=
  if w.isSuppressed then w else f w

def emit (name : String) (attributes : List Attribute) (body : Option Value) (w : World) : World :=
  w.record (.emitted ⟨name, attributes, body⟩)

def systemPrompt (e : Emitter) (attributes : List Attribute) (m : Message) (w : World) : World :=
  unlessSuppressed w fun w =>
    emit Telemetry.systemMessageEvent attributes (promptBody e.capture .system m)
      (w.log (debugLog "recording system prompt" []))

def userPrompt (e : Emitter) (attributes : List Attribute) (m : Message) (w : World) : World :=
  unlessSuppressed w fun w =>
    emit Telemetry.userMessageEvent attributes (promptBody e.capture .user m)
      (w.log (debugLog "recording user prompt" []))

def choices (e : Emitter) (attributes : List Attribute) (output : List Choice) (w : World) :
    World :=
  unlessSuppressed w fun w =>
    output.zipIdx.foldl (fun w (c, position) =>
      emit Telemetry.choiceEvent attributes (choiceBody e.capture position c) w)
      (w.log (debugLog "recording response choices" [("choices", .count output.length)]))

def completion (nested : Call → World → World) (e : Emitter) (attributes : List Attribute)
    (d : Details) (mode : Mode) (responseId : String) (w : World) : World :=
  unlessSuppressed w fun w =>
    let w := if e.measures then w.record (.measured d.usage attributes) else w
    let (body, w) :=
      if e.capture.messageContent then
        match mode with
        | .inlined => (some (inlineBody d), w.log (debugLog "recording completion details" []))
        | .reference =>
          let (body, w) := e.referenceBody nested d responseId
            (w.log (debugLog "recording completion details as references"
              [("response_id", .quoted responseId)]))
          (some body, w)
      else (none, w.log (debugLog "recording completion details without content" []))
    emit Telemetry.completionDetailsEvent attributes body w

/-- A whole call: its system prompt, its user prompts and its completion. -/
def call (nested : Call → World → World) (e : Emitter) (attributes : List Attribute) (d : Details)
    (responseId : String) (w : World) : World :=
  unlessSuppressed w fun w =>
    let w := (d.system?.getD []).foldl (fun w m => e.systemPrompt attributes m w) w
    let w := (d.input.filter (·.role = .user)).foldl (fun w m => e.userPrompt attributes m w) w
    e.completion nested attributes d e.capture.mode responseId w

end Emitter

/-- Performs a call, with `nested` for the calls that its uploads lead to. -/
def Call.performWith (nested : Call → World → World) (c : Call) (w : World) : World :=
  match c.operation with
  | .systemPrompt m => c.emitter.systemPrompt c.attributes m w
  | .userPrompt m => c.emitter.userPrompt c.attributes m w
  | .choices output => c.emitter.choices c.attributes output w
  | .completion d mode responseId => c.emitter.completion nested c.attributes d mode responseId w
  | .call d responseId => c.emitter.call nested c.attributes d responseId w

/-- Performs a call whose uploads may lead to calls `depth` levels deep. -/
def Call.performAt : (depth : Nat) → Call → World → World
  | 0, _, w => w
  | depth + 1, c, w => c.performWith (performAt depth) w

/--
Performs a call. Two levels are as good as any number: the calls that uploads lead to are
suppressed.
-/
def Call.perform (c : Call) (w : World) : World :=
  c.performAt 2 w

end ChatTelemetry.Emission
