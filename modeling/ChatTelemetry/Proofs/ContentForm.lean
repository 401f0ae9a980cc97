import ChatTelemetry.Proofs.ToolData

/-!
This module shows that it does not matter in which form a content is given: a text alone and the
same text as a part make the same message, and so do all ways to divide what a tool returns.
-/

namespace ChatTelemetry.Payload

open Chat (PartFields)
open Json (Value nestingLimit)
open Json.Grammar (IsText)

/-! ### Fields that are taken -/

/-- Whatever `put` has put among what was read so far, reading a field goes on in the same way. -/
def Fields.PassesOver (fields : Fields σ β) (put : α → σ → σ) : Prop :=
  ∀ (key : String) (v : Value) (slots : σ),
    ∃ read, ∀ a, fields.assign key v (put a slots) = put a <$> read

theorem Fields.passesOver_first (name : String) (secondName : Option String) (shape : Shape α)
    (missing : Option α) (rest : Fields σ β)
    : (Fields.cons name secondName shape missing rest).PassesOver
        fun a slots => (some a, slots.2) := by
  intro key v slots
  by_cases hkey : goesBy name secondName key
  . refine ⟨.error (.repeated name), ?_⟩
    intro a
    simp only [Fields.assign, if_pos hkey, Option.isSome_some, if_true]
    rfl
  . refine ⟨(slots.1, ·) <$> rest.assign key v slots.2, ?_⟩
    intro a
    simp only [Fields.assign, if_neg hkey, map_eq_pure_bind, bind_assoc, pure_bind]

theorem Fields.PassesOver.cons {rest : Fields σ β} {put : α → σ → σ} (h : rest.PassesOver put)
    (name : String) (secondName : Option String) (shape : Shape γ) (missing : Option γ)
    : (Fields.cons name secondName shape missing rest).PassesOver
        fun a slots => (slots.1, put a slots.2) := by
  intro key v ⟨slot, slots⟩
  by_cases hkey : goesBy name secondName key
  . cases slot with
    | some b =>
      refine ⟨.error (.repeated name), ?_⟩
      intro a
      simp only [Fields.assign, if_pos hkey, Option.isSome_some, if_true]
      rfl
    | none =>
      refine ⟨(some ·, slots) <$> shape.ofValue v, ?_⟩
      intro a
      simp only [Fields.assign, if_pos hkey, Option.isSome_none, Bool.false_eq_true, if_false,
        map_eq_pure_bind, bind_assoc, pure_bind]
  . obtain ⟨read, hread⟩ := h key v slots
    refine ⟨(slot, ·) <$> read, ?_⟩
    intro a
    simp only [Fields.assign, if_neg hkey, hread, map_eq_pure_bind, bind_assoc, pure_bind]

theorem Fields.PassesOver.foldlM {fields : Fields σ β} {put : α → σ → σ} (h : fields.PassesOver put)
    (members : List (String × Value)) (slots : σ)
    : ∃ read, ∀ a, members.foldlM (fun slots f => fields.assign f.1 f.2 slots) (put a slots)
        = put a <$> read := by
  induction members generalizing slots with
  | nil => exact ⟨.ok slots, fun _ => rfl⟩
  | cons f rest ih =>
    obtain ⟨read, hread⟩ := h f.1 f.2 slots
    cases read with
    | error e =>
      refine ⟨.error e, ?_⟩
      intro a
      rw [List.foldlM_cons, hread]
      rfl
    | ok slots' =>
      obtain ⟨read', hread'⟩ := ih slots'
      refine ⟨read', ?_⟩
      intro a
      rw [List.foldlM_cons, hread, ← hread']
      rfl

theorem complete_optional (name : String) (secondName : Option String) (shape : Shape α)
    (rest : Fields σ β) (slot : Option (Option α)) (slots : σ)
    : (Fields.optional name secondName shape rest).complete (slot, slots)
        = (slot.join, ·) <$> rest.complete slots := by
  cases slot <;> rfl

namespace OpenAi

def Message.withContent (m : Message) (c : Content) : Message :=
  { m with content := some c }

/-- The same comes of both messages, and the same is logged of them. -/
structure Message.IsRecordedLike (m m' : Message) : Prop where
  toMessage_eq : m.turn.toMessage = m'.turn.toMessage
  log_eq (decodeFault : String → String) : m.turn.log decodeFault = m'.turn.log decodeFault

theorem Message.isRecordedLike_of_turn_eq {m m' : Message} (h : m.turn = m'.turn)
    : m.IsRecordedLike m' := by
  constructor
  . rw [h]
  . intro decodeFault
    rw [h]

/-! ### The content among the other fields -/

/-- The fields of a message. -/
def Message.fields :=
  Fields.optional "role" none .text <|
    .optional "content" none Content.shape <|
    .optional "name" none .text <|
    .optional "tool_calls" none (.list ToolCall.shape) <|
    .optional "tool_call_id" none .text .nil

/-- Puts a content among what was read of a message, as its second field. -/
def Message.putContent (c : Option Content) (slots : ρ × Option (Option Content) × σ)
    : ρ × Option (Option Content) × σ :=
  (slots.1, some c, slots.2.2)

theorem Message.passesOver_content : fields.PassesOver putContent :=
  (Fields.passesOver_first "content" none _ _ _).cons "role" none _ _

theorem ofValue_optional_content {v : Value} {c : Content} (h : Content.shape.ofValue v = .ok c)
    : (Shape.optional Content.shape).ofValue v = .ok (some c) := by
  cases v with
  | null => cases h
  | _ =>
    simp only [Shape.ofValue, h]
    rfl

/-- Of the fields of a message, only what is read of the content depends on the content. -/
theorem Message.exists_foldlM_assign_content (before after : List (String × Value))
    : ∃ read, ∀ v c, Content.shape.ofValue v = .ok c →
        (before ++ ("content", v) :: after).foldlM
          (fun slots f => fields.assign f.1 f.2 slots) fields.blank
            = putContent (some c) <$> read := by
  cases hbefore : before.foldlM (fun slots f => fields.assign f.1 f.2 slots) fields.blank with
  | error e =>
    refine ⟨.error e, ?_⟩
    intro v c hc
    rw [List.foldlM_append, hbefore]
    rfl
  | ok slots =>
    obtain ⟨role, content, others⟩ := slots
    cases content with
    | some taken =>
      refine ⟨.error (.repeated "content"), ?_⟩
      intro v c hc
      rw [List.foldlM_append, hbefore]
      rfl
    | none =>
      obtain ⟨read, hread⟩ := passesOver_content.foldlM after (role, none, others)
      refine ⟨read, ?_⟩
      intro v c hc
      have hcontent : fields.assign "content" v (role, none, others)
          = .ok (role, some (some c), others) := by
        simp only [fields, Fields.optional, Fields.assign, ofValue_optional_content hc]
        rfl
      rw [List.foldlM_append, hbefore, ← hread (some c)]
      change (fields.assign "content" v (role, none, others) >>= _) = _
      rw [hcontent]
      rfl

/-- A content stands in the message as it was read; nothing else of the message depends on it. -/
theorem Message.exists_ofValue_withContent (before after : List (String × Value))
    : ∃ read, ∀ v c, Content.shape.ofValue v = .ok c →
        Message.shape.ofValue (.object (before ++ ("content", v) :: after))
          = (Message.withContent · c) <$> read := by
  obtain ⟨read, hread⟩ := exists_foldlM_assign_content before after
  refine ⟨(fun (role, _, name, toolCalls, toolCallId, ()) =>
    ⟨role.join, none, name.join, toolCalls.join, toolCallId.join⟩) <$> read, ?_⟩
  intro v c hc
  rw [Message.shape, Shape.ofValue]
  refine (congrArg (· >>= _) (hread v c hc)).trans ?_
  cases read with
  | error e => rfl
  | ok slots =>
    obtain ⟨role, content, name, toolCalls, toolCallId, ⟨⟩⟩ := slots
    change _ <$> fields.complete _ = _
    simp only [fields, putContent, complete_optional]
    rfl

/-! ### One text -/

/-- A part of type text; what else it holds does not count. -/
def ContentPart.ofText (s : String) (imageUrl : Option ImageUrl) (inputAudio : Option InputAudio)
    : ContentPart :=
  ⟨some "text", some s, imageUrl, inputAudio⟩

theorem Message.turn_withContent_congr (m : Message) {c d : Content}
    (hextracts : c.extracts = d.extracts) (htext : c.plainText = d.plainText)
    : (m.withContent c).turn = (m.withContent d).turn := by
  unfold turn withContent
  cases roleOf m.role with
  | tool => simp only [Option.map_some, htext]
  | _ => simp only [Option.map_some, hextracts]

theorem Message.turn_withContent_ofText (m : Message) (s : String) (imageUrl : Option ImageUrl)
    (inputAudio : Option InputAudio)
    : (m.withContent (.parts [.ofText s imageUrl inputAudio])).turn
        =
      (m.withContent (.text s)).turn := by
  apply turn_withContent_congr
  . rfl
  . simp [Content.plainText, ContentPart.ofText, String.join]

theorem turn_ofValue_content_ofText (before after : List (String × Value)) (s : String)
    : Message.turn <$> Message.shape.ofValue (.object (before ++
          ("content", .array [.object [("type", .string "text"), ("text", .string s)]]) :: after))
        =
      Message.turn <$> Message.shape.ofValue (.object (before ++
          ("content", .string s) :: after)) := by
  obtain ⟨read, hread⟩ := Message.exists_ofValue_withContent before after
  have hturn (m : Message) := m.turn_withContent_ofText s none none
  rw [hread _ (.parts [.ofText s none none]) rfl, hread _ (.text s) rfl]
  simp only [Functor.map_map, hturn]

/-! ### What a tool returns -/

/-- The message of a tool has the text of its content, and nothing else of it. -/
theorem Message.turn_withContent_of_tool {m : Message} (h : roleOf m.role = .tool) (c : Content)
    : (m.withContent c).turn = (m.withContent (.text c.plainText)).turn := by
  have hrole (d : Content) : roleOf (m.withContent d).role = .tool := h
  unfold turn
  rw [hrole, hrole]
  rfl

theorem Message.parts_withContent_of_isText {m : Message} (h : roleOf m.role = .tool) {c : Content}
    {v : Value} (htext : IsText c.plainText.toList v) (hdepth : v.depth ≤ nestingLimit)
    : (m.withContent c).turn.toMessage.parts
        =
      [.toolCallResponse (PartFields.callId m.toolCallId m.name 0) m.name (some v.canonical)] := by
  have hrole : roleOf (m.withContent c).role = .tool := h
  rw [parts_of_tool hrole, ← structured_of_isText htext hdepth]
  rfl

/--
A content is given as a text or as parts. A text makes the same message as the one part of type text
that has it, whoever speaks and whatever else the message holds; the first statement is about the
payload, the second one about the message that is read of it. Of what a tool returns only the texts
of all parts put together count: wherever a tree is divided, it is the same tree in the message.
-/
theorem content_form_does_not_matter
    : (∀ (before after : List (String × Value)) (s : String),
        Message.turn <$> Message.shape.ofValue (.object (before ++
            ("content", .array [.object [("type", .string "text"), ("text", .string s)]]) :: after))
          =
        Message.turn <$> Message.shape.ofValue (.object (before ++
            ("content", .string s) :: after)))
        ∧
      (∀ (m : Message) (s : String) (imageUrl : Option ImageUrl) (inputAudio : Option InputAudio),
        (m.withContent (.parts [.ofText s imageUrl inputAudio])).IsRecordedLike
          (m.withContent (.text s)))
        ∧
      ∀ m : Message, m.role = some "tool" ∨ m.role = some "function" → ∀ ps : List ContentPart,
        let raw := String.join (ps.filterMap (·.text))
        (m.withContent (.parts ps)).IsRecordedLike (m.withContent (.text raw)) ∧
        ∀ v, IsText raw.toList v → v.depth ≤ nestingLimit →
          (m.withContent (.parts ps)).turn.toMessage.parts
            = [.toolCallResponse (PartFields.callId m.toolCallId m.name 0) m.name
                (some v.canonical)] := by
  refine ⟨?_, ?_, ?_⟩
  . intro before after s
    exact turn_ofValue_content_ofText before after s
  . intro m s imageUrl inputAudio
    apply Message.isRecordedLike_of_turn_eq
    exact m.turn_withContent_ofText s imageUrl inputAudio
  . intro m hm ps raw
    have hrole := roleOf_eq_tool_iff.mpr hm
    constructor
    . apply Message.isRecordedLike_of_turn_eq
      exact Message.turn_withContent_of_tool hrole (.parts ps)
    . intro v htext hdepth
      exact Message.parts_withContent_of_isText hrole htext hdepth

/-- An array is divided between two parts, of which only one is of type text. -/
theorem content_form_does_not_matter_to_a_divided_array
    : let m : Message := ⟨some "tool", none, some "f", none, some "1"⟩
      let ps : List ContentPart :=
        [⟨some "text", some "[1,", none, none⟩, ⟨some "image_url", none, none, none⟩,
          ⟨some "refusal", some "2]", none, none⟩]
      (m.withContent (.parts ps)).IsRecordedLike (m.withContent (.text "[1,2]")) ∧
      (m.withContent (.parts ps)).turn.toMessage.parts
        = [.toolCallResponse "1" (some "f") (some (.array [.int 1, .int 2]))] := by
  intro m ps
  obtain ⟨-, -, htool⟩ := content_form_does_not_matter
  obtain ⟨halike, hparts⟩ := htool m (.inl rfl) ps
  have hwhole : (Value.array [.int 1, .int 2]).hasWholeNumbers := by
    rfl
  have htext : IsText "[1,2]".toList (.array [.int 1, .int 2]) :=
    (Json.isText_chars_iff hwhole).mpr rfl
  exact ⟨halike, hparts _ htext (by decide)⟩

end OpenAi

end ChatTelemetry.Payload
