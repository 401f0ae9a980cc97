import ChatTelemetry.Chat.Role
import ChatTelemetry.Json.Value
/-!
Messages of a conversation as parts of six kinds, whoever provided them.
-/

namespace ChatTelemetry.Chat

open Json (Value)

inductive Part
  | text (content : String)
  | blob (mimeType : String) (data : List UInt8)
  | fileReference (mimeType uri : String)
  | toolCallRequest (id name : String) (arguments : Option Value)
  | toolCallResponse (id : String) (name : Option String) (result : Option Value)
  /-- A part of no recognized kind; nothing of it is kept. -/
  | unknown
deriving BEq, Repr, Inhabited

def Part.kind : Part → String
  | text _ => "text"
  | blob _ _ => "blob"
  | fileReference _ _ => "file_reference"
  | toolCallRequest _ _ _ => "tool_call_request"
  | toolCallResponse _ _ _ => "tool_call_response"
  | unknown => "unknown"

structure Message where
  role : Role
  parts : List Part
deriving BEq, Repr, Inhabited

structure Choice where
  finishReason : FinishReason
  message : Option Message
deriving BEq, Repr, Inhabited

end ChatTelemetry.Chat
