import ChatTelemetry.Emission.Emitter
import ChatTelemetry.Payload.Google
import ChatTelemetry.Payload.OpenAi
/-!
The details of a call from the payloads of its provider.
-/

namespace ChatTelemetry.Emission

open Chat (CandidateMapping Turn normalizeInput normalizeOutput normalizeSystem inputLog)
open Payload
open Telemetry (Duration)

/-- A call's details, and the turns that they are normalized from, in order. -/
structure Conversation where
  details : Details
  turns : List Turn
deriving Repr, Inhabited

namespace Conversation

/-- What normalizing the payloads logs. -/
def log (decodeFault : String → String) (c : Conversation) : List Log.Event :=
  inputLog decodeFault c.turns

def ofGoogle (mapping : CandidateMapping) (duration : Duration) (request : Google.Request)
    (response : Google.Response) : Conversation :=
  let turns := request.contents.map Google.Content.turn
  let system := request.systemInstruction.map Google.Content.turn
  let candidates := response.candidates.map Google.Choice.candidate
  { details :=
      { systemInstructions := normalizeSystem system
        input := normalizeInput turns
        output := normalizeOutput mapping candidates
        usage :=
          { duration
            inputTokens := response.usage.bind (·.promptTokens)
            outputTokens := response.usage.bind (·.candidatesTokens) } }
    turns := turns ++ system.toList ++ candidates.filterMap (·.turn) }

/-- Here system instructions are messages like all others. -/
def ofOpenAi (mapping : CandidateMapping) (duration : Duration) (request : OpenAi.Request)
    (response : OpenAi.Response) : Conversation :=
  let turns := request.messages.map OpenAi.Message.turn
  let candidates := response.choices.map OpenAi.Choice.candidate
  { details :=
      { input := normalizeInput turns
        output := normalizeOutput mapping candidates
        usage :=
          { duration
            inputTokens := response.usage.bind (·.promptTokens)
            outputTokens := response.usage.bind (·.completionTokens) } }
    turns := turns ++ candidates.filterMap (·.turn) }

end Conversation
end ChatTelemetry.Emission
