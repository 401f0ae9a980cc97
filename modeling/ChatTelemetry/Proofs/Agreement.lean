import ChatTelemetry.Payload.Google
import ChatTelemetry.Proofs.Canonical
import ChatTelemetry.Proofs.DataUri
import ChatTelemetry.Proofs.WireForm
import ChatTelemetry.Proofs.Writing

/-!
This module shows that a conversation becomes the same messages, whichever of the two formats it is
written in.
-/

namespace ChatTelemetry.Payload

open Json (Value)
open Chat (Extract Part PartFields normalizeInput messagesToWire)

/-! ### Conversations -/

/-- What both formats can say beside tool calls. -/
inductive Item
  | text (content : String)
  | inline (mimeType : String) (bytes : List UInt8) (noComma : ',' ∉ mimeType.toList)
  | file (uri : String) (noData : ¬"data:".toList <+: uri.toList)

/-- Arguments of a tool call as a tree and as a text that reads as this tree. -/
structure Arguments where
  tree : Value
  text : String
  read_text : Json.read text = .ok tree

/-- A tree and its compact text. -/
def Arguments.compact (tree : Value) (hwhole : tree.hasWholeNumbers)
    (hsorted : tree.canonical = tree) (hdepth : tree.depth ≤ Json.nestingLimit)
    : Arguments :=
  ⟨tree, tree.text, (Json.read_text_iff hwhole hsorted).mpr ⟨rfl, hdepth⟩⟩

structure Call where
  id : Option String
  name : Option String
  arguments : Option Arguments

inductive Speaker
  | user
  | assistant

/-- A turn of a conversation: items and then tool calls. -/
structure Utterance where
  speaker : Speaker
  items : List Item
  calls : List Call

def Speaker.role : Speaker → Chat.Role
  | user => .user
  | assistant => .assistant

def Item.part : Item → Part
  | text content => .text content
  | inline mimeType bytes _ => .blob mimeType bytes
  | file uri _ => .fileReference "" uri

def Call.part (c : Call) (position : Nat) : Part :=
  .toolCallRequest (PartFields.callId c.id c.name position) (c.name.getD "")
    (c.arguments.map (·.tree))

/-- The message that the turn is in either format. -/
def Utterance.message (u : Utterance) : Chat.Message where
  role := u.speaker.role
  parts := u.items.map Item.part ++
    (u.calls.zipIdx u.items.length).map fun (c, position) => c.part position

/-! ### The two formats -/

def encoded (bytes : List UInt8) : String :=
  .ofList (Base64.encode bytes)

namespace Google

def speakerName : Speaker → String
  | .user => "user"
  | .assistant => "model"

def ofItem : Item → Part
  | .text content => ⟨some content, none, none, none, none⟩
  | .inline mimeType bytes _ => ⟨none, some ⟨some mimeType, some (encoded bytes)⟩, none, none, none⟩
  | .file uri _ => ⟨none, none, some ⟨none, some uri⟩, none, none⟩

def ofCall (c : Call) : Part :=
  ⟨none, none, none, some ⟨c.id, c.name, c.arguments.map (·.tree)⟩, none⟩

def ofUtterance (u : Utterance) : Content :=
  ⟨some (speakerName u.speaker), some (u.items.map ofItem ++ u.calls.map ofCall)⟩

end Google

namespace OpenAi

def speakerName : Speaker → String
  | .user => "user"
  | .assistant => "assistant"

def ofItem : Item → ContentPart
  | .text content => ⟨some "text", some content, none, none⟩
  | .inline mimeType bytes _ =>
    ⟨some "image_url", none, some ⟨"data:" ++ mimeType ++ ";base64," ++ encoded bytes, none⟩, none⟩
  | .file uri _ => ⟨some "image_url", none, some ⟨uri, none⟩, none⟩

def ofCall (c : Call) : ToolCall :=
  ⟨c.id, some ⟨c.name, c.arguments.map (·.text)⟩⟩

def ofUtterance (u : Utterance) : Message where
  role := some (speakerName u.speaker)
  content := some (.parts (u.items.map ofItem))
  name := none
  toolCalls := some (u.calls.map ofCall)
  toolCallId := none

end OpenAi

/-! ### What is found on the parts -/

def Item.fields : Item → PartFields
  | text content => { text := some content }
  | inline mimeType bytes _ => { blob := some ⟨some mimeType, bytes⟩ }
  | file uri _ => { file := some ⟨none, some uri⟩ }

def Call.fields (c : Call) : PartFields where
  toolCall := some ⟨c.id, c.name, c.arguments.map (·.tree)⟩

def Utterance.turn (u : Utterance) : Chat.Turn :=
  ⟨u.speaker.role, u.items.map Item.fields ++ u.calls.map Call.fields, []⟩

/-- What is found where every text in base64 stands for bytes. -/
def Extract.ofFields (f : PartFields) : Extract :=
  { fields := f }

theorem Utterance.turn_eq_ofExtracts (u : Utterance)
    : u.turn = .ofExtracts u.speaker.role (u.items.map (Extract.ofFields ∘ Item.fields) ++
        u.calls.map (Extract.ofFields ∘ Call.fields)) := by
  simp [turn, Chat.Turn.ofExtracts, Extract.ofFields, Function.comp_def]

-- Only calls depend on where they stand, and there they come after the items.
theorem Utterance.toMessage_turn (u : Utterance) : u.turn.toMessage = u.message := by
  have hitem : ∀ (i : Item) (position : Nat), i.fields.toPart position = i.part := by
    intro i position
    cases i <;> rfl
  have hitems : ∀ (items : List Item) (start : Nat),
      ((items.map Item.fields).zipIdx start).map (fun p => p.1.toPart p.2)
        = items.map Item.part := by
    intro items
    induction items with
    | nil => exact fun start => rfl
    | cons i items ih =>
      intro start
      simp [List.zipIdx_cons, hitem, ih]
  change Chat.Message.mk _ (List.map (fun p => p.1.toPart p.2) (u.turn.parts.zipIdx)) = u.message
  unfold turn message
  rw [List.zipIdx_append, List.map_append, hitems, List.zipIdx_map, List.map_map, Nat.zero_add,
    List.length_map]
  rfl

theorem read_encoded (bytes : List UInt8) : Base64.read (encoded bytes) = .ok bytes := by
  rw [Base64.read, encoded, String.toList_ofList, Base64.decode?_encode]

namespace Google

theorem extract_ofItem (i : Item) : (ofItem i).extract = { fields := i.fields } := by
  cases i with
  | inline mimeType bytes noComma =>
    simp [ofItem, Part.extract, Part.blob?, Blob.read, read_encoded, Except.map, Except.toOption,
      Item.fields]
  | _ => rfl

theorem turn_ofUtterance (u : Utterance) : (ofUtterance u).turn = u.turn := by
  have hrole : roleOf (some (speakerName u.speaker)) = u.speaker.role := by
    cases u.speaker <;> rfl
  have hitems : Part.extract ∘ ofItem = Extract.ofFields ∘ Item.fields := funext extract_ofItem
  have hcalls : Part.extract ∘ ofCall = Extract.ofFields ∘ Call.fields := rfl
  unfold ofUtterance Content.turn
  dsimp only [Option.getD_some]
  rw [hrole, List.map_append, List.map_map, List.map_map, hitems, hcalls]
  exact u.turn_eq_ofExtracts.symm

end Google

namespace OpenAi

theorem encoded?_ofItem_inline {mimeType : String} (bytes : List UInt8)
    (noComma : ',' ∉ mimeType.toList)
    : (ofItem (.inline mimeType bytes noComma)).encoded? = some (mimeType, encoded bytes) :=
  dataUri?_eq_some_iff.mpr ⟨noComma, rfl⟩

theorem encoded?_ofItem_file {uri : String} (noData : ¬"data:".toList <+: uri.toList)
    : (ofItem (.file uri noData)).encoded? = none :=
  dataUri?_eq_none noData

theorem extract_ofItem (i : Item) : (ofItem i).extract = { fields := i.fields } := by
  cases i with
  | text content => rfl
  | inline mimeType bytes noComma =>
    simp [ContentPart.extract, encoded?_ofItem_inline, blobExtract, read_encoded, Item.fields]
  | file uri noData =>
    rw [ContentPart.extract, encoded?_ofItem_file]
    rfl

theorem structured_text (a : Arguments) : structured a.text = a.tree := by
  rw [structured, a.read_text]

theorem extract_ofCall (c : Call) : (ofCall c).extract = { fields := c.fields } := by
  obtain ⟨id, name, arguments⟩ := c
  cases arguments with
  | none => rfl
  | some a => simp [ofCall, ToolCall.extract, structured_text, Call.fields]

theorem turn_ofUtterance (u : Utterance) : (ofUtterance u).turn = u.turn := by
  have hitems : ContentPart.extract ∘ ofItem = Extract.ofFields ∘ Item.fields :=
    funext extract_ofItem
  have hcalls : ToolCall.extract ∘ ofCall = Extract.ofFields ∘ Call.fields := funext extract_ofCall
  rw [u.turn_eq_ofExtracts]
  obtain ⟨speaker, items, calls⟩ := u
  cases speaker <;>
  . simp [ofUtterance, Message.turn, speakerName, roleOf, Content.extracts, hitems, hcalls,
      Speaker.role]

end OpenAi

/-! ### Payloads -/

/-- The field of this key, unless it has no value. -/
def fieldOf (key : String) (v : Option Value) : List (String × Value) :=
  (v.map fun v => (key, v)).toList

theorem ofValue_list {shape : Shape α} {write : β → Value} {read : β → α}
    (h : ∀ b, shape.ofValue (write b) = .ok (read b)) (bs : List β)
    : (Shape.list shape).ofValue (.array (bs.map write)) = .ok (bs.map read) := by
  unfold Shape.ofValue
  induction bs with
  | nil => rfl
  | cons b bs ih =>
    rw [List.map_cons, List.mapM_cons, h, ih]
    rfl

theorem ofValue_list_append {shape : Shape α} {vs ws : List Value} {as bs : List α}
    (hvs : (Shape.list shape).ofValue (.array vs) = .ok as)
    (hws : (Shape.list shape).ofValue (.array ws) = .ok bs)
    : (Shape.list shape).ofValue (.array (vs ++ ws)) = .ok (as ++ bs) := by
  unfold Shape.ofValue at hvs hws ⊢
  rw [List.mapM_append, hvs, hws]
  rfl

theorem ofValue_optional_any (v : Value)
    : (Shape.optional .any).ofValue v = .ok v.canonical.present? := by
  cases v <;> rfl

section

-- By these `simp` reads a record whose fields are known to be read.
attribute [local simp] Shape.ofValue Fields.optional Fields.list Fields.blank Fields.complete
  Fields.assign goesBy bind Except.bind pure Except.pure Functor.map Except.map

namespace Google

def itemPayload : Item → Value
  | .text content => .object [("text", .string content)]
  | .inline mimeType bytes _ => .object
    [("inlineData", .object [("mimeType", .string mimeType), ("data", .string (encoded bytes))])]
  | .file uri _ => .object [("fileData", .object [("fileUri", .string uri)])]

def callFields (id name : Option String) (arguments : Option Value) : List (String × Value) :=
  fieldOf "id" (id.map .string) ++ fieldOf "name" (name.map .string) ++ fieldOf "args" arguments

def callPayload (c : Call) : Value :=
  .object [("functionCall", .object (callFields c.id c.name (c.arguments.map (·.tree))))]

def utterancePayload (u : Utterance) : Value :=
  .object [("role", .string (speakerName u.speaker)),
    ("parts", .array (u.items.map itemPayload ++ u.calls.map callPayload))]

def payload (conversation : List Utterance) : Value :=
  .object [("contents", .array (conversation.map utterancePayload))]

/-- Null arguments are left out, as they are by reading. -/
def Part.normal (p : Part) : Part :=
  { p with functionCall := p.functionCall.map fun c =>
    { c with args := c.args.bind Value.present? } }

def Content.normal (c : Content) : Content :=
  { c with parts := c.parts.map (·.map Part.normal) }

theorem ofValue_itemPayload (i : Item)
    : Part.shape.ofValue (itemPayload i) = .ok (ofItem i).normal := by
  cases i <;> rfl

theorem ofValue_callFields (id name : Option String) (arguments : Option Value)
    : FunctionCall.shape.ofValue (.object (callFields id name arguments))
        = .ok ⟨id, name, arguments.bind fun v => v.canonical.present?⟩ := by
  unfold callFields fieldOf
  cases arguments with
  | none => cases id <;> cases name <;> rfl
  | some v =>
    have hv := ofValue_optional_any v
    cases id <;> cases name <;> simp [FunctionCall.shape, hv]

theorem ofValue_callPayload (c : Call)
    : Part.shape.ofValue (callPayload c) = .ok (ofCall c).normal := by
  obtain ⟨id, name, arguments⟩ := c
  have harguments : ((arguments.map (·.tree)).bind fun v => v.canonical.present?)
      = (arguments.map (·.tree)).bind Value.present? := by
    cases arguments with
    | none => rfl
    | some a =>
      rw [Option.map_some, Option.bind_some, Option.bind_some]
      rw [Value.canonical_of_read a.read_text]
  have hfields := ofValue_callFields id name (arguments.map (·.tree))
  rw [harguments] at hfields
  simp [callPayload, Part.shape, hfields, ofCall, Part.normal]

theorem ofValue_utterancePayload (u : Utterance)
    : Content.shape.ofValue (utterancePayload u) = .ok (ofUtterance u).normal := by
  have hparts := ofValue_list_append (ofValue_list ofValue_itemPayload u.items)
    (ofValue_list ofValue_callPayload u.calls)
  rw [Shape.ofValue] at hparts
  simp [utterancePayload, Content.shape, -List.mapM_append, hparts, ofUtterance, Content.normal,
    Function.comp_def]

theorem ofValue_payload (conversation : List Utterance)
    : Request.shape.ofValue (payload conversation)
        = .ok ⟨conversation.map fun u => (ofUtterance u).normal, none⟩ := by
  have hcontents := ofValue_list ofValue_utterancePayload conversation
  rw [Shape.ofValue] at hcontents
  simp [payload, Request.shape, hcontents]

theorem toWire_normal (p : Part) (position : Nat)
    : (p.normal.extract.fields.toPart position).toWire
        = (p.extract.fields.toPart position).toWire := by
  have hblob : p.normal.blob? = p.blob? := rfl
  unfold Part.extract
  rw [hblob]
  generalize p.blob?.bind Except.toOption = blob
  obtain ⟨text, inlineData, fileData, functionCall, functionResponse⟩ := p
  unfold Part.normal
  cases functionCall with
  | none => rfl
  | some c =>
    cases text with
    | some content => rfl
    | none =>
      cases blob with
      | some b => rfl
      | none =>
        cases fileData with
        | some f => rfl
        | none => simp [PartFields.toPart, Chat.Part.toWire, Value.getD_bind_present?]

theorem toWire_turn_normal (c : Content)
    : c.normal.turn.toMessage.toWire = c.turn.toMessage.toWire := by
  obtain ⟨role, parts⟩ := c
  cases parts with
  | none => rfl
  | some ps =>
    simp [Content.normal, Content.turn, Chat.Turn.toMessage, Chat.Message.toWire,
      Chat.Turn.ofExtracts, Chat.partsToWire, List.zipIdx_map, Function.comp_def, toWire_normal]

end Google

namespace OpenAi

def itemPayload : Item → Value
  | .text content => .object [("type", .string "text"), ("text", .string content)]
  | .inline mimeType bytes _ => .object
    [ ("type", .string "image_url"),
      ("image_url", .object
        [("url", .string ("data:" ++ mimeType ++ ";base64," ++ encoded bytes))]) ]
  | .file uri _ => .object
    [("type", .string "image_url"), ("image_url", .object [("url", .string uri)])]

def callPayload (c : Call) : Value :=
  .object (fieldOf "id" (c.id.map .string) ++ [("function", .object
    (fieldOf "name" (c.name.map .string) ++
      fieldOf "arguments" (c.arguments.map fun a => .string a.text)))])

def utterancePayload (u : Utterance) : Value :=
  .object
    [ ("role", .string (speakerName u.speaker)), ("content", .array (u.items.map itemPayload)),
      ("tool_calls", .array (u.calls.map callPayload)) ]

def payload (conversation : List Utterance) : Value :=
  .object [("messages", .array (conversation.map utterancePayload))]

theorem ofValue_itemPayload (i : Item)
    : ContentPart.shape.ofValue (itemPayload i) = .ok (ofItem i) := by
  cases i <;> rfl

theorem ofValue_callPayload (c : Call)
    : ToolCall.shape.ofValue (callPayload c) = .ok (ofCall c) := by
  obtain ⟨id, name, arguments⟩ := c
  cases id <;> cases name <;> cases arguments <;> rfl

theorem ofValue_utterancePayload (u : Utterance)
    : Message.shape.ofValue (utterancePayload u) = .ok (ofUtterance u) := by
  have hcontent := ofValue_list ofValue_itemPayload u.items
  have hcalls := ofValue_list ofValue_callPayload u.calls
  rw [Shape.ofValue] at hcontent hcalls
  simp [utterancePayload, Message.shape, Content.shape, hcontent, hcalls, ofUtterance]

theorem ofValue_payload (conversation : List Utterance)
    : Request.shape.ofValue (payload conversation) = .ok ⟨none, conversation.map ofUtterance⟩ := by
  have hmessages := ofValue_list ofValue_utterancePayload conversation
  rw [Shape.ofValue] at hmessages
  simp [payload, Request.shape, hmessages]

end OpenAi
end

/-! ### Agreement -/

/--
In either format, a conversation becomes the messages of its turns, with the same ids for the calls
that have none. Where the payloads are read, null arguments are left out in one format and kept in
the other, which the wire form does not show.
-/
theorem formats_agree (conversation : List Utterance)
    : normalizeInput (conversation.map fun u => (Google.ofUtterance u).turn)
        = conversation.map Utterance.message ∧
      normalizeInput (conversation.map fun u => (OpenAi.ofUtterance u).turn)
        = conversation.map Utterance.message ∧
      ∃ (g : Google.Request) (o : OpenAi.Request),
        Google.Request.shape.ofValue (Google.payload conversation) = .ok g ∧
        OpenAi.Request.shape.ofValue (OpenAi.payload conversation) = .ok o ∧
        messagesToWire (normalizeInput (g.contents.map Google.Content.turn))
          = messagesToWire (conversation.map Utterance.message) ∧
        messagesToWire (normalizeInput (o.messages.map OpenAi.Message.turn))
          = messagesToWire (conversation.map Utterance.message) := by
  have hturns : normalizeInput (conversation.map Utterance.turn)
      = conversation.map Utterance.message := by
    rw [normalizeInput, List.map_map]
    exact List.map_congr_left fun u hu => u.toMessage_turn
  have hgoogle : (fun u => (Google.ofUtterance u).turn) = Utterance.turn :=
    funext Google.turn_ofUtterance
  have hopenAi : (fun u => (OpenAi.ofUtterance u).turn) = Utterance.turn :=
    funext OpenAi.turn_ofUtterance
  refine ⟨?_, ?_, _, _, Google.ofValue_payload conversation, OpenAi.ofValue_payload conversation,
    ?_, ?_⟩
  . rw [hgoogle, hturns]
  . rw [hopenAi, hturns]
  . rw [← hturns, ← hgoogle]
    simp [messagesToWire, normalizeInput, Function.comp_def, Google.toWire_turn_normal]
  . rw [List.map_map, ← hturns, ← hopenAi]
    rfl

/-- The call has no id and is the second part of its turn. -/
theorem formats_agree_on_an_image_a_file_and_a_call
    : let city : Value := .object [("city", .string "Basel")]
      let arguments := Arguments.compact city (by decide) (by rfl) (by decide)
      let conversation : List Utterance :=
        [ ⟨.user,
            [ .text "What is it like there?",
              .inline "image/png" [0x89, 0x50, 0x4e, 0x47] (by decide),
              .file "gs://traces/map.pdf" (by decide) ],
            []⟩,
          ⟨.assistant, [.text "Let me see."], [⟨none, some "weather", some arguments⟩]⟩ ]
      let messages : List Chat.Message :=
        [ ⟨.user,
            [ .text "What is it like there?",
              .blob "image/png" [0x89, 0x50, 0x4e, 0x47],
              .fileReference "" "gs://traces/map.pdf" ]⟩,
          ⟨.assistant,
            [.text "Let me see.", .toolCallRequest "weather_1" "weather" (some city)]⟩ ]
      normalizeInput (conversation.map fun u => (Google.ofUtterance u).turn) = messages ∧
      normalizeInput (conversation.map fun u => (OpenAi.ofUtterance u).turn) = messages ∧
      ∃ (g : Google.Request) (o : OpenAi.Request),
        Google.Request.shape.ofValue (Google.payload conversation) = .ok g ∧
        OpenAi.Request.shape.ofValue (OpenAi.payload conversation) = .ok o ∧
        messagesToWire (normalizeInput (g.contents.map Google.Content.turn))
          = messagesToWire messages ∧
        messagesToWire (normalizeInput (o.messages.map OpenAi.Message.turn))
          = messagesToWire messages := by
  intro city arguments conversation messages
  have hid : Chat.PartFields.callId none (some "weather") 1 = "weather_1" := by decide
  have hmessages : conversation.map Utterance.message = messages := by
    simp [conversation, messages, arguments, Arguments.compact, Utterance.message, Item.part,
      Call.part, Speaker.role, hid]
  rw [← hmessages]
  exact formats_agree conversation

end ChatTelemetry.Payload
