import ChatTelemetry.Base64
import ChatTelemetry.Chat.Message
/-!
The JSON trees that messages become in telemetry. Fields stand in the order of their keys, every
part is tagged with its kind, bytes are base64 text and what is absent is null.
-/

namespace ChatTelemetry.Chat

open Json (Value)

def Part.toWire : Part → Value
  | text content => .object [("content", .string content), ("type", .string "text")]
  | blob mimeType data => .object
    [ ("data", .string (.ofList (Base64.encode data))), ("mime_type", .string mimeType),
      ("type", .string "blob") ]
  | fileReference mimeType uri => .object
    [("mime_type", .string mimeType), ("type", .string "file_reference"), ("uri", .string uri)]
  | toolCallRequest id name arguments => .object
    [ ("arguments", arguments.getD .null), ("id", .string id), ("name", .string name),
      ("type", .string "tool_call_request") ]
  | toolCallResponse id name result => .object
    [ ("id", .string id), ("name", .ofText? name), ("result", result.getD .null),
      ("type", .string "tool_call_response") ]
  | unknown => .object [("type", .string "unknown")]

def partsToWire (parts : List Part) : Value :=
  .array (parts.map Part.toWire)

def Message.toWire (m : Message) : Value :=
  .object [("parts", partsToWire m.parts), ("role", .string m.role.text)]

/-- The fields of the message, if there is one, stand beside the finish reason. -/
def Choice.toWire (c : Choice) : Value :=
  match c.message with
  | none => .object [("finish_reason", .string c.finishReason.text)]
  | some m => .object
    [ ("finish_reason", .string c.finishReason.text), ("parts", partsToWire m.parts),
      ("role", .string m.role.text) ]

def messagesToWire (messages : List Message) : Value :=
  .array (messages.map Message.toWire)

def choicesToWire (choices : List Choice) : Value :=
  .array (choices.map Choice.toWire)

end ChatTelemetry.Chat
