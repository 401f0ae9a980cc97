import ChatTelemetry.Base64
import ChatTelemetry.Chat.Turn
import ChatTelemetry.Payload.Shape
import ChatTelemetry.Text.Segments
/-!
Requests and responses of the chat completions format.
-/

namespace ChatTelemetry.Payload.OpenAi

open Json (Value)
open Chat (Role FinishReason Turn Candidate PartFields Extract)

structure ImageUrl where
  url : String
  detail : Option String
deriving Repr, Inhabited

structure InputAudio where
  data : String
  format : String
deriving Repr, Inhabited

/-- One part of a content; the type says which of the fields counts. -/
structure ContentPart where
  type : Option String
  text : Option String
  imageUrl : Option ImageUrl
  inputAudio : Option InputAudio
deriving Repr, Inhabited

inductive Content
  | text (s : String)
  | parts (ps : List ContentPart)
deriving Repr, Inhabited

structure FunctionCall where
  name : Option String
  arguments : Option String
deriving Repr, Inhabited

structure ToolCall where
  id : Option String
  function : Option FunctionCall
deriving Repr, Inhabited

structure Message where
  role : Option String
  content : Option Content
  name : Option String
  toolCalls : Option (List ToolCall)
  toolCallId : Option String
deriving Repr, Inhabited

structure Request where
  model : Option String
  messages : List Message
deriving Repr, Inhabited

structure Choice where
  index : Option Nat
  message : Option Message
  finishReason : Option String
deriving Repr, Inhabited

structure Usage where
  promptTokens : Option Nat
  completionTokens : Option Nat
deriving Repr, Inhabited

structure Response where
  id : Option String
  model : Option String
  choices : List Choice
  usage : Option Usage
deriving Repr, Inhabited

/-! ### Layouts -/

def ImageUrl.shape : Shape ImageUrl :=
  .record "OpenAiImageUrl"
    (.required "url" .text <|
      .optional "detail" none .text .nil)
    fun (url, detail, ()) => { url, detail }

def InputAudio.shape : Shape InputAudio :=
  .record "OpenAiInputAudio"
    (.required "data" .text <|
      .required "format" .text .nil)
    fun (data, format, ()) => { data, format }

def ContentPart.shape : Shape ContentPart :=
  .record "OpenAiContentPart"
    (.optional "type" none .text <|
      .optional "text" none .text <|
      .optional "image_url" none ImageUrl.shape <|
      .optional "input_audio" none InputAudio.shape .nil)
    fun (type, text, imageUrl, inputAudio, ()) => { type, text, imageUrl, inputAudio }

def Content.shape : Shape Content :=
  .either "OpenAiContent" .text (.list ContentPart.shape) .text .parts

def FunctionCall.shape : Shape FunctionCall :=
  .record "OpenAiFunctionCall"
    (.optional "name" none .text <|
      .optional "arguments" none .text .nil)
    fun (name, arguments, ()) => { name, arguments }

def ToolCall.shape : Shape ToolCall :=
  .record "OpenAiToolCall"
    (.optional "id" none .text <|
      .optional "function" none FunctionCall.shape .nil)
    fun (id, function, ()) => { id, function }

def Message.shape : Shape Message :=
  .record "OpenAiMessage"
    (.optional "role" none .text <|
      .optional "content" none Content.shape <|
      .optional "name" none .text <|
      .optional "tool_calls" none (.list ToolCall.shape) <|
      .optional "tool_call_id" none .text .nil)
    fun (role, content, name, toolCalls, toolCallId, ()) =>
      { role, content, name, toolCalls, toolCallId }

def Request.shape : Shape Request :=
  .record "OpenAiRequest"
    (.optional "model" none .text <|
      .list "messages" Message.shape .nil)
    fun (model, messages, ()) => { model, messages }

def Choice.shape : Shape Choice :=
  .record "OpenAiChoice"
    (.optional "index" none (.count 32) <|
      .optional "message" none Message.shape <|
      .optional "finish_reason" none .text .nil)
    fun (index, message, finishReason, ()) => { index, message, finishReason }

def Usage.shape : Shape Usage :=
  .record "OpenAiUsage"
    (.optional "prompt_tokens" none (.count 64) <|
      .optional "completion_tokens" none (.count 64) .nil)
    fun (promptTokens, completionTokens, ()) => { promptTokens, completionTokens }

def Response.shape : Shape Response :=
  .record "OpenAiResponse"
    (.optional "id" none .text <|
      .optional "model" none .text <|
      .list "choices" Choice.shape <|
      .optional "usage" none Usage.shape .nil)
    fun (id, model, choices, usage, ()) => { id, model, choices, usage }

/-! ### Normalization -/

def roleOf (raw : Option String) : Role :=
  match raw with
  | some "system" | some "developer" => .system
  | some "user" => .user
  | some "assistant" => .assistant
  | some "tool" | some "function" => .tool
  | _ => .unrecognized

/-- The canonical reason; one that is not mapped keeps its name. -/
def finishReasonOf (raw : String) : FinishReason :=
  match raw with
  | "stop" => .stop
  | "length" => .length
  | "content_filter" => .contentFilter
  | "tool_calls" | "function_call" => .toolCall
  | raw => .other raw

/-- The tree that a text is, or the text itself if it is none. -/
def structured (raw : String) : Value :=
  match Json.read raw with
  | .ok v => v
  | .error _ => .string raw

def dataUri? (url : String) : Option (String × String) := do
  let rest ← Text.dropStart? "data:".toList url.toList
  let (header, encoded) ← Text.cutAt? ',' rest
  let mimeType ← Text.dropEnd? ";base64".toList header
  return (.ofList mimeType, .ofList encoded)

/-- Content given in base64; none is found if the text stands for no bytes. -/
def blobExtract (mimeType encoded : String) : Extract :=
  match Base64.read encoded with
  | .ok bytes => { fields := { blob := some ⟨some mimeType, bytes⟩ } }
  | .error encoded => { fields := {}, unreadable := some encoded }

/-- The base64 text that a part carries, with its MIME type. -/
def ContentPart.encoded? (p : ContentPart) : Option (String × String) :=
  match p.type with
  | some "image_url" => p.imageUrl.bind fun image => dataUri? image.url
  | some "input_audio" => p.inputAudio.map fun audio => ("audio/" ++ audio.format, audio.data)
  | _ => none

def ContentPart.extract (p : ContentPart) : Extract :=
  match p.encoded? with
  | some (mimeType, encoded) => blobExtract mimeType encoded
  | none =>
    match p.type with
    | some "text" => { fields := { text := p.text } }
    | some "image_url" =>
      { fields := { file := p.imageUrl.map fun image => ⟨none, some image.url⟩ } }
    | _ => { fields := {} }

def ContentPart.fields (p : ContentPart) : PartFields :=
  p.extract.fields

def ToolCall.extract (c : ToolCall) : Extract where
  fields :=
    { toolCall := some
        { id := c.id
          name := c.function.bind (·.name)
          arguments := (c.function.bind (·.arguments)).map structured } }

/-- The text of a content: of several parts, their texts put together. -/
def Content.plainText : Content → String
  | text s => s
  | parts ps => String.join (ps.filterMap (·.text))

/-- What is found in a content, part by part; a text is one part. -/
def Content.extracts : Content → List Extract
  | text s => [{ fields := { text := some s } }]
  | parts ps => ps.map ContentPart.extract

/-- A tool's message is one response; any other has its content followed by its tool calls. -/
def Message.turn (m : Message) : Turn :=
  match roleOf m.role with
  | .tool =>
    let result := m.content.map fun c => structured c.plainText
    .ofExtracts .tool [{ fields := { toolResponse := some ⟨m.toolCallId, m.name, result⟩ } }]
  | role =>
    let content := (m.content.map Content.extracts).getD []
    let calls := (m.toolCalls.getD []).map ToolCall.extract
    .ofExtracts role (content ++ calls)

def Choice.candidate (c : Choice) : Candidate :=
  ⟨c.message.map Message.turn, (c.finishReason.map finishReasonOf).getD .absent⟩

end ChatTelemetry.Payload.OpenAi
