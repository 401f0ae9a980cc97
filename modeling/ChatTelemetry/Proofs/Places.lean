import ChatTelemetry.Payload.Google
import ChatTelemetry.Payload.OpenAi

/-!
This module shows that nothing of what messages hold is lost, doubled or moved: every item becomes
one part, which stands where the item stands and is made from the item and its position alone.
-/

namespace ChatTelemetry

open Chat (Extract Part PartFields Turn normalizeInput)

namespace Chat

theorem Turn.parts_toMessage_eq_mapIdx (t : Turn)
    : t.toMessage.parts = t.parts.mapIdx fun i f => f.toPart i := by
  rw [List.mapIdx_eq_zipIdx_map]
  rfl

theorem Turn.parts_toMessage {t : Turn} {i : Nat} {f : PartFields} (h : t.parts[i]? = some f)
    : t.toMessage.parts[i]? = some (f.toPart i) := by
  rw [Turn.parts_toMessage_eq_mapIdx, List.getElem?_mapIdx, h]
  rfl

/-! ### Places -/

/-- The item that stands at a position of one message among several. -/
def itemAt (items : ρ → List ι) (raw : List ρ) (message position : Nat) : Option ι :=
  raw[message]?.bind fun r => (items r)[position]?

def partAt (messages : List Message) (message position : Nat) : Option Part :=
  itemAt Message.parts messages message position

/--
Every raw message becomes one message, and each of its items one part at the same position: `part`
says which one. Whatever else stands in the messages does not matter to it.
-/
structure KeepsPlaces (turn : ρ → Turn) (items : ρ → List ι) (part : ι → Nat → Part) : Prop where
  length_eq (raw : List ρ) : (normalizeInput (raw.map turn)).length = raw.length
  length_parts {raw : List ρ} {j : Nat} {r : ρ} (h : raw[j]? = some r)
    : ∃ m, (normalizeInput (raw.map turn))[j]? = some m ∧ m.parts.length = (items r).length
  part_eq {raw : List ρ} {j i : Nat} {item : ι} (h : itemAt items raw j i = some item)
    : partAt (normalizeInput (raw.map turn)) j i = some (part item i)
  isolated {raw raw' : List ρ} {j i : Nat} (h : itemAt items raw j i = itemAt items raw' j i)
    : partAt (normalizeInput (raw.map turn)) j i = partAt (normalizeInput (raw'.map turn)) j i

section

variable {turn : ρ → Turn} {items : ρ → List ι} {part : ι → Nat → Part}
  (h : ∀ r, (turn r).toMessage.parts = (items r).mapIdx fun i item => part item i)

include h

theorem partAt_normalizeInput (raw : List ρ) (j i : Nat)
    : partAt (normalizeInput (raw.map turn)) j i
        =
      (itemAt items raw j i).map fun item => part item i := by
  unfold partAt itemAt normalizeInput
  rw [List.map_map, List.getElem?_map]
  cases raw[j]? with
  | none => rfl
  | some r => simp [h]

/-- It is enough that each message alone keeps its items in place. -/
theorem keepsPlaces_of_turn : KeepsPlaces turn items part where
  length_eq raw := by simp [normalizeInput]
  length_parts {raw j r} hr := by
    refine ⟨(turn r).toMessage, ?_, ?_⟩
    . rw [normalizeInput, List.map_map, List.getElem?_map, hr]
      rfl
    . rw [h, List.length_mapIdx]
  part_eq hitem := by
    rw [partAt_normalizeInput h, hitem]
    rfl
  isolated hsame := by
    rw [partAt_normalizeInput h, partAt_normalizeInput h, hsame]

end

end Chat

namespace Payload

/-! ### The items of a message -/

namespace Google

def Content.items (c : Content) : List Part :=
  c.parts.getD []

def Part.placed (p : Part) (position : Nat) : Chat.Part :=
  p.fields.toPart position

theorem Content.parts_toMessage_turn (c : Content)
    : c.turn.toMessage.parts = c.items.mapIdx fun i p => p.placed i := by
  rw [Turn.parts_toMessage_eq_mapIdx]
  simp [turn, Turn.ofExtracts, items, Part.placed, Part.fields, List.mapIdx_eq_zipIdx_map,
    List.zipIdx_map]

end Google

namespace OpenAi

/-- What a message holds one after another; a tool's message is a single result. -/
inductive RawItem
  | text (s : String)
  | contentPart (p : ContentPart)
  | toolCall (c : ToolCall)
  | toolResult (id name : Option String) (content : Option Content)

def RawItem.extract : RawItem → Extract
  | text s => { fields := { text := some s } }
  | contentPart p => p.extract
  | toolCall c => c.extract
  | toolResult id name content =>
    let result := content.map fun c => structured c.plainText
    { fields := { toolResponse := some ⟨id, name, result⟩ } }

def RawItem.fields (item : RawItem) : PartFields :=
  item.extract.fields

def RawItem.placed (item : RawItem) (position : Nat) : Chat.Part :=
  item.fields.toPart position

def Content.items : Content → List RawItem
  | text s => [.text s]
  | parts ps => ps.map .contentPart

def Message.contentItems (m : Message) : List RawItem :=
  (m.content.map Content.items).getD []

def Message.items (m : Message) : List RawItem :=
  if roleOf m.role = .tool then [.toolResult m.toolCallId m.name m.content]
  else m.contentItems ++ (m.toolCalls.getD []).map .toolCall

/-- How many parts a content is; a text is one, even if it is empty. -/
def Message.contentCount (m : Message) : Nat :=
  match m.content with
  | none => 0
  | some (.text _) => 1
  | some (.parts ps) => ps.length

theorem roleOf_eq_tool_iff {raw : Option String}
    : roleOf raw = .tool ↔ raw = some "tool" ∨ raw = some "function" := by
  unfold roleOf
  split <;> simp_all [Chat.Role.unrecognized]

theorem Message.length_contentItems (m : Message) : m.contentItems.length = m.contentCount := by
  unfold contentItems contentCount
  split
  . next h => simp [h]
  . next h => simp [h, Content.items]
  . next h => simp [h, Content.items]

theorem Content.map_extract_items (c : Content) : c.items.map RawItem.extract = c.extracts := by
  cases c with
  | text s => rfl
  | parts ps => simp [items, extracts, RawItem.extract, Function.comp_def]

/-- A message is made from what is found in its items. -/
theorem Message.turn_eq_ofExtracts (m : Message)
    : m.turn = .ofExtracts (roleOf m.role) (m.items.map RawItem.extract) := by
  have hcontent : m.contentItems.map RawItem.extract
      = (m.content.map Content.extracts).getD [] := by
    unfold contentItems
    cases m.content with
    | none => rfl
    | some c => exact c.map_extract_items
  unfold items turn
  cases hrole : roleOf m.role with
  | tool => rfl
  | _ => simp [hcontent, RawItem.extract, Function.comp_def]

theorem Message.parts_toMessage_turn (m : Message)
    : m.turn.toMessage.parts = m.items.mapIdx fun i item => item.placed i := by
  rw [turn_eq_ofExtracts, Turn.parts_toMessage_eq_mapIdx]
  simp [Turn.ofExtracts, RawItem.placed, RawItem.fields, List.mapIdx_eq_zipIdx_map, List.zipIdx_map]

theorem Message.items_of_not_tool {m : Message} (h : roleOf m.role ≠ .tool)
    : m.items = m.contentItems ++ (m.toolCalls.getD []).map .toolCall := by
  rw [items, if_neg h]

/-- A tool call stands as far behind the content as there are calls before it. -/
theorem Message.part_of_toolCall {m : Message} (h : roleOf m.role ≠ .tool) {k : Nat} {c : ToolCall}
    (hc : (m.toolCalls.getD [])[k]? = some c)
    : m.turn.toMessage.parts[m.contentCount + k]?
        =
      some (c.extract.fields.toPart (m.contentCount + k)) := by
  have hitem : m.items[m.contentCount + k]? = some (.toolCall c) := by
    rw [items_of_not_tool h, ← length_contentItems]
    rw [List.getElem?_append_right (Nat.le_add_right _ _), Nat.add_sub_cancel_left]
    rw [List.getElem?_map, hc]
    rfl
  rw [parts_toMessage_turn, List.getElem?_mapIdx, hitem]
  rfl

theorem Message.parts_of_tool {m : Message} (h : roleOf m.role = .tool)
    : m.turn.toMessage.parts
        =
      [.toolCallResponse (PartFields.callId m.toolCallId m.name 0) m.name
        (m.content.map fun c => structured c.plainText)] := by
  rw [parts_toMessage_turn, items, if_pos h]
  rfl

end OpenAi

/--
Every message of either format becomes one message, each of its parts one part at the same position,
whatever stands beside it. In the chat completions format the content comes before the tool calls,
so that a call without an id is named after the position behind the content; the message of a tool
is one response.
-/
theorem items_keep_their_places
    : Chat.KeepsPlaces Google.Content.turn Google.Content.items Google.Part.placed
        ∧
      Chat.KeepsPlaces OpenAi.Message.turn OpenAi.Message.items OpenAi.RawItem.placed
        ∧
      (∀ m : OpenAi.Message, m.role ≠ some "tool" → m.role ≠ some "function" →
        m.items = m.contentItems ++ (m.toolCalls.getD []).map .toolCall ∧
        m.contentItems.length = m.contentCount ∧
        ∀ k c, (m.toolCalls.getD [])[k]? = some c →
          let name := c.function.bind (·.name)
          let arguments := c.function.bind (·.arguments)
          m.turn.toMessage.parts[m.contentCount + k]?
            = some (.toolCallRequest (PartFields.callId c.id name (m.contentCount + k))
                (name.getD "") (arguments.map OpenAi.structured)))
        ∧
      ∀ m : OpenAi.Message, m.role = some "tool" ∨ m.role = some "function" →
        ∃ id result, m.turn.toMessage.parts = [.toolCallResponse id m.name result] := by
  refine ⟨?_, ?_, ?_, ?_⟩
  . exact Chat.keepsPlaces_of_turn Google.Content.parts_toMessage_turn
  . exact Chat.keepsPlaces_of_turn OpenAi.Message.parts_toMessage_turn
  . intro m htool hfunction
    have hrole : OpenAi.roleOf m.role ≠ .tool := by
      rw [ne_eq, OpenAi.roleOf_eq_tool_iff]
      exact not_or.mpr ⟨htool, hfunction⟩
    refine ⟨OpenAi.Message.items_of_not_tool hrole, m.length_contentItems, ?_⟩
    intro k c hc
    exact OpenAi.Message.part_of_toolCall hrole hc
  . intro m hm
    rw [OpenAi.Message.parts_of_tool (OpenAi.roleOf_eq_tool_iff.mpr hm)]
    exact ⟨_, _, rfl⟩

/-- A call that is named after its position counts an image that cannot be read. -/
theorem items_keep_their_places_beside_an_unreadable_image
    : let image : OpenAi.ContentPart :=
        ⟨some "image_url", none, some ⟨"data:image/png;base64,@", none⟩, none⟩
      let text : OpenAi.ContentPart := ⟨some "text", some "", none, none⟩
      let call : OpenAi.ToolCall := ⟨none, some ⟨some "fetch", none⟩⟩
      let m : OpenAi.Message :=
        ⟨some "assistant", some (.parts [image, text]), none, some [call, call], none⟩
      Chat.partAt (normalizeInput [m.turn]) 0 0 = some .unknown ∧
      Chat.partAt (normalizeInput [m.turn]) 0 1 = some (.text "") ∧
      m.turn.toMessage.parts[3]? = some (.toolCallRequest "fetch_3" "fetch" none) := by
  intro image text call m
  obtain ⟨-, hplaces, hcalls, -⟩ := items_keep_their_places
  obtain ⟨-, -, hcall⟩ := hcalls m (by decide) (by decide)
  have himage : Chat.itemAt OpenAi.Message.items [m] 0 0 = some (.contentPart image) := by
    rfl
  have htext : Chat.itemAt OpenAi.Message.items [m] 0 1 = some (.contentPart text) := by
    rfl
  have hid : PartFields.callId none (some "fetch") 3 = "fetch_3" := by
    decide
  refine ⟨hplaces.part_eq himage, hplaces.part_eq htext, ?_⟩
  rw [← hid]
  exact hcall 1 call rfl

end Payload
end ChatTelemetry
