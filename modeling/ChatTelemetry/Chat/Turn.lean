import ChatTelemetry.Chat.Message
import ChatTelemetry.Log.Event
/-!
Provider messages on their way to canonical ones.

A `Turn` holds, for each part of a provider's message, every field that was found on it. A part's
kind follows from its fields alone, the first of text, inline bytes, file, tool call and tool
response: `PartFields.toPart`.
-/

namespace ChatTelemetry.Chat

open Json (Value)

structure BlobFields where
  mimeType : Option String
  data : List UInt8
deriving BEq, Repr, Inhabited

structure FileFields where
  mimeType : Option String
  uri : Option String
deriving BEq, Repr, Inhabited

structure ToolCallFields where
  id : Option String
  name : Option String
  arguments : Option Value
deriving BEq, Repr, Inhabited

structure ToolResponseFields where
  id : Option String
  name : Option String
  result : Option Value
deriving BEq, Repr, Inhabited

structure PartFields where
  text : Option String := none
  blob : Option BlobFields := none
  file : Option FileFields := none
  toolCall : Option ToolCallFields := none
  toolResponse : Option ToolResponseFields := none
deriving BEq, Repr, Inhabited

namespace PartFields

def isEmpty (f : PartFields) : Bool :=
  f.text.isNone && f.blob.isNone && f.file.isNone && f.toolCall.isNone && f.toolResponse.isNone

/-- The id of a call: its own, or its name and position, or its position alone. -/
def callId (id name : Option String) (position : Nat) : String :=
  let digits := String.ofList (Nat.toDigits 10 position)
  match id, name with
  | some id, name =>
    if id ≠ "" then id
    else
      match name with
      | some name => if name ≠ "" then name ++ "_" ++ digits else digits
      | none => digits
  | none, some name => if name ≠ "" then name ++ "_" ++ digits else digits
  | none, none => digits

def toPart (f : PartFields) (position : Nat) : Part :=
  match f with
  | { text := some content, .. } => .text content
  | { blob := some b, .. } => .blob (b.mimeType.getD "") b.data
  | { file := some r, .. } => .fileReference (r.mimeType.getD "") (r.uri.getD "")
  | { toolCall := some c, .. } =>
    .toolCallRequest (callId c.id c.name position) (c.name.getD "") c.arguments
  | { toolResponse := some r, .. } =>
    .toolCallResponse (callId r.id r.name position) r.name r.result
  | _ => .unknown

end PartFields

/-- What is found on a part. -/
structure Extract where
  fields : PartFields
  /-- The base64 text that stands for no bytes, if the part has one. -/
  unreadable : Option String := none
deriving BEq, Repr, Inhabited

structure Turn where
  role : Role
  parts : List PartFields
  /-- The base64 texts that stand for no bytes, in the order of their parts. -/
  unreadable : List String
deriving BEq, Repr, Inhabited

namespace Turn

def ofExtracts (role : Role) (extracts : List Extract) : Turn :=
  ⟨role, extracts.map (·.fields), extracts.filterMap (·.unreadable)⟩

def toMessage (t : Turn) : Message :=
  ⟨t.role, t.parts.zipIdx.map fun (f, position) => f.toPart position⟩

def logTarget : String := "promptwire_messages::convert"

/--
One warning for each base64 text that stands for no bytes, in order. What the decoder says of such a
text is its own matter: `decodeFault`.
-/
def warnings (decodeFault : String → String) (t : Turn) : List Log.Event :=
  t.unreadable.map fun encoded =>
    ⟨.warn, logTarget, "failed to decode base64 content part",
      [("error", .shown (decodeFault encoded))]⟩

/-- One event for each part that is of no recognized kind, in order. -/
def unknownParts (t : Turn) : List Log.Event :=
  t.parts.zipIdx.filterMap fun (f, position) =>
    if f.isEmpty then
      some ⟨.info, logTarget, "unknown message part recorded without content",
        [("index", .count position)]⟩
    else none

def log (decodeFault : String → String) (t : Turn) : List Log.Event :=
  t.warnings decodeFault ++ t.unknownParts

end Turn

structure Candidate where
  turn : Option Turn
  finishReason : FinishReason
deriving BEq, Repr, Inhabited

/-- What becomes of candidates without content. -/
inductive CandidateMapping
  | skipEmpty
  /-- They become choices without a message. -/
  | keepEmpty
deriving DecidableEq, Repr, Inhabited

def normalizeInput (turns : List Turn) : List Message :=
  turns.map Turn.toMessage

def normalizeOutput (mapping : CandidateMapping) (candidates : List Candidate) : List Choice :=
  candidates.filterMap fun c =>
    match c.turn, mapping with
    | none, .skipEmpty => none
    | turn, _ => some ⟨c.finishReason, turn.map Turn.toMessage⟩

/-- The system instructions of a request, if it has any. -/
def normalizeSystem (turn : Option Turn) : Option (List Message) :=
  turn.map fun t => [t.toMessage]

def inputLog (decodeFault : String → String) (turns : List Turn) : List Log.Event :=
  turns.flatMap (Turn.log decodeFault)

def outputLog (decodeFault : String → String) (candidates : List Candidate) : List Log.Event :=
  inputLog decodeFault (candidates.filterMap (·.turn))

end ChatTelemetry.Chat
