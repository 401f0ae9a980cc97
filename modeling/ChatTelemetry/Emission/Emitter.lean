import ChatTelemetry.Chat.Turn
import ChatTelemetry.Storage.Cell
import ChatTelemetry.Telemetry.Usage
/-!
Emitters and what they are asked to do.
-/

namespace ChatTelemetry.Emission

open Chat (Message Choice CandidateMapping)
open Storage (Handle)
open Telemetry (Attribute Usage)

inductive Mode
  | inlined
  /-- Into storage; the event says where. -/
  | reference
deriving DecidableEq, Repr, Inhabited

/-- What may be recorded, and how. -/
structure CaptureSettings where
  messageContent : Bool := false
  mode : Mode := .inlined
  candidateMapping : CandidateMapping := .keepEmpty
deriving DecidableEq, Repr, Inhabited

structure Details where
  systemInstructions : Option (List Message) := none
  input : List Message := []
  output : List Choice := []
  usage : Usage := {}
deriving Repr, Inhabited

/-- System instructions; empty ones count as absent. -/
def Details.system? (d : Details) : Option (List Message) :=
  d.systemInstructions.filter fun messages => !messages.isEmpty

structure Emitter where
  measures : Bool := false
  storage : Handle := .global
  capture : CaptureSettings := {}
deriving DecidableEq, Repr, Inhabited

inductive Operation
  | systemPrompt (message : Message)
  | userPrompt (message : Message)
  | choices (output : List Choice)
  | completion (details : Details) (mode : Mode) (responseId : String)
  | call (details : Details) (responseId : String)
deriving Repr, Inhabited

/-- An operation on an emitter, with the attributes of its events. -/
structure Call where
  emitter : Emitter
  attributes : List Attribute
  operation : Operation
deriving Repr, Inhabited

end ChatTelemetry.Emission
