import ChatTelemetry.Base64
import ChatTelemetry.Chat.Turn
import ChatTelemetry.Payload.Shape
/-!
Requests and responses of the `generateContent` format.

Names are in camel case and, for what other clients record, in snake case.
-/

namespace ChatTelemetry.Payload.Google

open Json (Value)
open Chat (Role FinishReason Turn Candidate BlobFields PartFields Extract)

structure Blob where
  mimeType : Option String
  data : Option String
deriving Repr, Inhabited

structure FileData where
  mimeType : Option String
  fileUri : Option String
deriving Repr, Inhabited

structure FunctionCall where
  id : Option String
  name : Option String
  args : Option Value
deriving Repr, Inhabited

structure FunctionResponse where
  id : Option String
  name : Option String
  response : Option Value
deriving Repr, Inhabited

structure Part where
  text : Option String
  inlineData : Option Blob
  fileData : Option FileData
  functionCall : Option FunctionCall
  functionResponse : Option FunctionResponse
deriving Repr, Inhabited

structure Content where
  role : Option String
  parts : Option (List Part)
deriving Repr, Inhabited

structure Request where
  contents : List Content
  systemInstruction : Option Content
deriving Repr, Inhabited

structure Choice where
  content : Option Content
  finishReason : Option String
  index : Option Nat
deriving Repr, Inhabited

structure Usage where
  promptTokens : Option Nat
  candidatesTokens : Option Nat
  totalTokens : Option Nat
deriving Repr, Inhabited

structure Response where
  candidates : List Choice
  usage : Option Usage
  responseId : Option String
  modelVersion : Option String
deriving Repr, Inhabited

/-! ### Layouts -/

def Blob.shape : Shape Blob :=
  .record "GoogleBlob"
    (.optional "mimeType" (some "mime_type") .text <|
      .optional "data" none .text .nil)
    fun (mimeType, data, ()) => { mimeType, data }

def FileData.shape : Shape FileData :=
  .record "GoogleFileData"
    (.optional "mimeType" (some "mime_type") .text <|
      .optional "fileUri" (some "file_uri") .text .nil)
    fun (mimeType, fileUri, ()) => { mimeType, fileUri }

def FunctionCall.shape : Shape FunctionCall :=
  .record "GoogleFunctionCall"
    (.optional "id" none .text <|
      .optional "name" none .text <|
      .optional "args" none .any .nil)
    fun (id, name, args, ()) => { id, name, args }

def FunctionResponse.shape : Shape FunctionResponse :=
  .record "GoogleFunctionResponse"
    (.optional "id" none .text <|
      .optional "name" none .text <|
      .optional "response" none .any .nil)
    fun (id, name, response, ()) => { id, name, response }

def Part.shape : Shape Part :=
  .record "GooglePart"
    (.optional "text" none .text <|
      .optional "inlineData" (some "inline_data") Blob.shape <|
      .optional "fileData" (some "file_data") FileData.shape <|
      .optional "functionCall" (some "function_call") FunctionCall.shape <|
      .optional "functionResponse" (some "function_response") FunctionResponse.shape .nil)
    fun (text, inlineData, fileData, functionCall, functionResponse, ()) =>
      { text, inlineData, fileData, functionCall, functionResponse }

def Content.shape : Shape Content :=
  .record "GoogleContent"
    (.optional "role" none .text <|
      .optional "parts" none (.list Part.shape) .nil)
    fun (role, parts, ()) => { role, parts }

def Request.shape : Shape Request :=
  .record "GoogleRequest"
    (.list "contents" Content.shape <|
      .optional "systemInstruction" (some "system_instruction") Content.shape .nil)
    fun (contents, systemInstruction, ()) => { contents, systemInstruction }

def Choice.shape : Shape Choice :=
  .record "GoogleCandidate"
    (.optional "content" none Content.shape <|
      .optional "finishReason" (some "finish_reason") .text <|
      .optional "index" none (.count 32) .nil)
    fun (content, finishReason, index, ()) => { content, finishReason, index }

def Usage.shape : Shape Usage :=
  .record "GoogleUsageMetadata"
    (.optional "promptTokenCount" (some "prompt_token_count") (.count 64) <|
      .optional "candidatesTokenCount" (some "candidates_token_count") (.count 64) <|
      .optional "totalTokenCount" (some "total_token_count") (.count 64) .nil)
    fun (promptTokens, candidatesTokens, totalTokens, ()) =>
      { promptTokens, candidatesTokens, totalTokens }

def Response.shape : Shape Response :=
  .record "GoogleResponse"
    (.list "candidates" Choice.shape <|
      .optional "usageMetadata" (some "usage_metadata") Usage.shape <|
      .optional "responseId" (some "response_id") .text <|
      .optional "modelVersion" (some "model_version") .text .nil)
    fun (candidates, usage, responseId, modelVersion, ()) =>
      { candidates, usage, responseId, modelVersion }

/-! ### Normalization -/

def roleOf (raw : Option String) : Role :=
  match raw with
  | some "user" => .user
  | some "model" => .assistant
  | _ => .unrecognized

/-- The canonical reason; one that is not mapped keeps its name. -/
def finishReasonOf (raw : String) : FinishReason :=
  match raw with
  | "FINISH_REASON_UNSPECIFIED" | "UNSPECIFIED" | "OTHER" => .error
  | "STOP" => .stop
  | "MAX_TOKENS" => .length
  | raw => .other raw

/--
The bytes of inline data, or their text if it stands for no bytes; data that are left out have no
bytes.
-/
def Blob.read (b : Blob) : Except String (List UInt8) :=
  match b.data with
  | some encoded => Base64.read encoded
  | none => .ok []

/-- The inline data of a part, or their text if it stands for no bytes. -/
def Part.blob? (p : Part) : Option (Except String BlobFields) :=
  p.inlineData.map fun b => b.read.map fun bytes => ⟨b.mimeType, bytes⟩

/-- What is found on a part. Inline data whose text stands for no bytes are not found. -/
def Part.extract (p : Part) : Extract where
  fields :=
    { text := p.text
      blob := p.blob?.bind Except.toOption
      file := p.fileData.map fun f => ⟨f.mimeType, f.fileUri⟩
      toolCall := p.functionCall.map fun c => ⟨c.id, c.name, c.args⟩
      toolResponse := p.functionResponse.map fun r => ⟨r.id, r.name, r.response⟩ }
  unreadable :=
    match p.blob? with
    | some (.error encoded) => some encoded
    | _ => none

def Part.fields (p : Part) : PartFields :=
  p.extract.fields

def Content.turn (c : Content) : Turn :=
  .ofExtracts (roleOf c.role) ((c.parts.getD []).map Part.extract)

def Choice.candidate (c : Choice) : Candidate :=
  ⟨c.content.map Content.turn, (c.finishReason.map finishReasonOf).getD .absent⟩

end ChatTelemetry.Payload.Google
