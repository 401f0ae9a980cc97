import ChatTelemetry.Emission.Conversation
import ChatTelemetry.Proofs.Retention
import ChatTelemetry.Proofs.Writing

/-!
This module shows which stored content can be read again. What tools are given and what they return
is read from texts of its own, up to the limit of the reader, and then stands four levels deep in
what is stored; content with such a tree in it that comes too close to the limit is stored, but
cannot be read.
-/

namespace ChatTelemetry

open Json (Value)

namespace Json.Value

/-- A tree whose text, if it is read at all, is read as this tree. -/
structure IsReadable (v : Value) : Prop where
  whole : v.hasWholeNumbers
  canonical : v.canonical = v

theorem isReadable_null : IsReadable null :=
  ⟨rfl, rfl⟩

theorem isReadable_string (s : String) : IsReadable (string s) :=
  ⟨rfl, rfl⟩

theorem isReadable_ofText? (s : Option String) : IsReadable (ofText? s) := by
  cases s with
  | none => exact isReadable_null
  | some s => exact isReadable_string s

theorem isReadable_array {items : List Value} (h : ∀ v ∈ items, v.IsReadable)
    : IsReadable (array items) where
  whole := hasWholeNumbers_array_iff.mpr fun v hv => (h v hv).whole
  canonical := by rw [Value.canonical, canonicalItems_eq_self fun v hv => (h v hv).canonical]

theorem isReadable_object {fields : List (String × Value)} (keys : List String)
    (hkeys : fields.map Prod.fst = keys) (hsorted : keys.Pairwise (· < ·))
    (h : ∀ f ∈ fields, f.2.IsReadable)
    : IsReadable (object fields) where
  whole := hasWholeNumbers_object_iff.mpr fun f hf => (h f hf).whole
  canonical := by
    have hfields : AreSorted fields := List.pairwise_map.mp (hkeys ▸ hsorted)
    rw [Value.canonical, canonicalFields_eq_self fun f hf => (h f hf).canonical, ofFields]
    rw [sortFields_of_areSorted hfields]

end Json.Value

namespace Chat

/-! ### Trees in messages -/

/-- What a tool has been given or has returned. -/
def Part.tree? : Part → Option Value
  | toolCallRequest _ _ arguments => arguments
  | toolCallResponse _ _ result => result
  | _ => none

def Message.trees (m : Message) : List Value :=
  m.parts.filterMap Part.tree?

def Choice.trees (c : Choice) : List Value :=
  c.message.toList.flatMap Message.trees

/-! ### How deep content is nested -/

/-- As `Part.tree?`, for the part that these fields are, wherever it stands. -/
def PartFields.tree? (f : PartFields) : Option Value :=
  (f.toPart 0).tree?

theorem tree?_toPart (f : PartFields) (position : Nat)
    : (f.toPart position).tree? = f.tree? := by
  unfold PartFields.tree? PartFields.toPart
  split <;> rfl

theorem Turn.trees_toMessage (t : Turn)
    : t.toMessage.trees = t.parts.filterMap PartFields.tree? := by
  unfold Message.trees toMessage
  rw [List.filterMap_map]
  conv_rhs => rw [← List.zipIdx_map_fst 0 t.parts, List.filterMap_map]
  apply List.filterMap_congr
  intro p _
  exact tree?_toPart p.1 p.2

theorem Part.depth_toWire_le_iff (p : Part) (n : Nat)
    : p.toWire.depth ≤ n + 1 ↔ ∀ tree ∈ p.tree?, tree.depth ≤ n := by
  cases p with
  | toolCallRequest id name arguments =>
    cases arguments <;> simp [toWire, tree?, Value.depth, Value.fieldsDepth]
  | toolCallResponse id name result =>
    cases name <;> cases result <;>
      simp [toWire, tree?, Value.depth, Value.fieldsDepth, Value.ofText?]
  | _ => simp [toWire, tree?, Value.depth, Value.fieldsDepth]

theorem depth_partsToWire_le_iff (parts : List Part) (n : Nat)
    : (partsToWire parts).depth ≤ n + 2 ↔ ∀ tree ∈ parts.filterMap Part.tree?, tree.depth ≤ n := by
  rw [partsToWire, Value.depth_array_le_iff, List.forall_mem_filterMap]
  simp only [List.forall_mem_map, Part.depth_toWire_le_iff]
  rfl

theorem Message.depth_toWire_le_iff (m : Message) (n : Nat)
    : m.toWire.depth ≤ n + 3 ↔ ∀ tree ∈ m.trees, tree.depth ≤ n := by
  rw [Message.trees, ← depth_partsToWire_le_iff, toWire, Value.depth_object_le_iff]
  simp [Value.depth]

theorem Choice.depth_toWire_le_iff (c : Choice) (n : Nat)
    : c.toWire.depth ≤ n + 3 ↔ ∀ tree ∈ c.trees, tree.depth ≤ n := by
  obtain ⟨reason, message⟩ := c
  cases message with
  | none => simp [toWire, trees, Value.depth, Value.fieldsDepth]
  | some m =>
    have htrees : (Choice.mk reason (some m)).trees = m.parts.filterMap Part.tree? := by
      simp [trees, Message.trees]
    rw [htrees, ← depth_partsToWire_le_iff, toWire, Value.depth_object_le_iff]
    simp [Value.depth]

theorem depth_messagesToWire_le_iff (messages : List Message) (n : Nat)
    : (messagesToWire messages).depth ≤ n + 4
        ↔
      ∀ tree ∈ messages.flatMap Message.trees, tree.depth ≤ n := by
  rw [messagesToWire, Value.depth_array_le_iff, List.forall_mem_flatMap]
  simp only [List.forall_mem_map, Message.depth_toWire_le_iff]

theorem depth_choicesToWire_le_iff (choices : List Choice) (n : Nat)
    : (choicesToWire choices).depth ≤ n + 4
        ↔
      ∀ tree ∈ choices.flatMap Choice.trees, tree.depth ≤ n := by
  rw [choicesToWire, Value.depth_array_le_iff, List.forall_mem_flatMap]
  simp only [List.forall_mem_map, Choice.depth_toWire_le_iff]

/-! ### Readable content -/

theorem isReadable_getD_null {v : Option Value} (h : ∀ tree ∈ v, tree.IsReadable)
    : (v.getD .null).IsReadable := by
  cases v with
  | none => exact Value.isReadable_null
  | some v => exact h v rfl

theorem Part.isReadable_toWire {p : Part} (h : ∀ tree ∈ p.tree?, tree.IsReadable)
    : p.toWire.IsReadable := by
  cases p with
  | text content =>
    apply Value.isReadable_object ["content", "type"] rfl (by decide)
    simp [Value.isReadable_string]
  | blob mimeType data =>
    apply Value.isReadable_object ["data", "mime_type", "type"] rfl (by decide)
    simp [Value.isReadable_string]
  | fileReference mimeType uri =>
    apply Value.isReadable_object ["mime_type", "type", "uri"] rfl (by decide)
    simp [Value.isReadable_string]
  | toolCallRequest id name arguments =>
    have harguments : (arguments.getD .null).IsReadable := isReadable_getD_null h
    apply Value.isReadable_object ["arguments", "id", "name", "type"] rfl (by decide)
    simp [Value.isReadable_string, harguments]
  | toolCallResponse id name result =>
    have hresult : (result.getD .null).IsReadable := isReadable_getD_null h
    apply Value.isReadable_object ["id", "name", "result", "type"] rfl (by decide)
    simp [Value.isReadable_string, Value.isReadable_ofText?, hresult]
  | unknown =>
    apply Value.isReadable_object ["type"] rfl (by decide)
    simp [Value.isReadable_string]

theorem isReadable_partsToWire {parts : List Part}
    (h : ∀ tree ∈ parts.filterMap Part.tree?, tree.IsReadable)
    : (partsToWire parts).IsReadable := by
  apply Value.isReadable_array
  rw [List.forall_mem_map]
  exact fun p hp => Part.isReadable_toWire (List.forall_mem_filterMap.mp h p hp)

theorem Message.isReadable_toWire {m : Message} (h : ∀ tree ∈ m.trees, tree.IsReadable)
    : m.toWire.IsReadable := by
  apply Value.isReadable_object ["parts", "role"] rfl (by decide)
  simp [Value.isReadable_string, isReadable_partsToWire h]

theorem Choice.isReadable_toWire {c : Choice} (h : ∀ tree ∈ c.trees, tree.IsReadable)
    : c.toWire.IsReadable := by
  obtain ⟨reason, message⟩ := c
  cases message with
  | none =>
    apply Value.isReadable_object ["finish_reason"] rfl (by decide)
    simp [Value.isReadable_string]
  | some m =>
    have hparts : (partsToWire m.parts).IsReadable := by
      apply isReadable_partsToWire
      intro tree htree
      exact h tree (List.mem_flatMap.mpr ⟨m, List.mem_singleton_self m, htree⟩)
    apply Value.isReadable_object ["finish_reason", "parts", "role"] rfl (by decide)
    simp [Value.isReadable_string, hparts]

theorem isReadable_messagesToWire {messages : List Message}
    (h : ∀ tree ∈ messages.flatMap Message.trees, tree.IsReadable)
    : (messagesToWire messages).IsReadable := by
  apply Value.isReadable_array
  rw [List.forall_mem_map]
  exact fun m hm => Message.isReadable_toWire (List.forall_mem_flatMap.mp h m hm)

theorem isReadable_choicesToWire {choices : List Choice}
    (h : ∀ tree ∈ choices.flatMap Choice.trees, tree.IsReadable)
    : (choicesToWire choices).IsReadable := by
  apply Value.isReadable_array
  rw [List.forall_mem_map]
  exact fun c hc => Choice.isReadable_toWire (List.forall_mem_flatMap.mp h c hc)

end Chat

namespace Payload.OpenAi

open Chat (PartFields)

/-! ### Trees in payloads -/

/-- What is read as a tree in a message: a tool's content, or the arguments of tool calls. -/
def Message.trees (m : Message) : List Value :=
  match roleOf m.role with
  | .tool => m.content.toList.map fun c => structured c.plainText
  | _ => (m.toolCalls.getD []).filterMap fun c =>
    (c.function.bind (·.arguments)).map structured

theorem canonical_structured (raw : String) : (structured raw).canonical = structured raw := by
  unfold structured
  cases h : Json.read raw with
  | ok v => exact Value.canonical_of_read h
  | error fault => rfl

theorem structured_of_isReadable {v : Value} (hv : v.IsReadable)
    (hdepth : v.depth ≤ Json.nestingLimit)
    : structured v.text = v := by
  rw [structured, (Json.read_text_iff hv.whole hv.canonical).mpr ⟨rfl, hdepth⟩]

theorem canonical_of_mem_trees {m : Message} {tree : Value} (h : tree ∈ m.trees)
    : tree.canonical = tree := by
  unfold Message.trees at h
  split at h
  . obtain ⟨c, _, rfl⟩ := List.mem_map.mp h
    exact canonical_structured _
  . obtain ⟨c, _, h⟩ := List.mem_filterMap.mp h
    obtain ⟨raw, _, rfl⟩ := Option.map_eq_some_iff.mp h
    exact canonical_structured _

theorem tree?_extract (p : ContentPart) : p.extract.fields.tree? = none := by
  unfold ContentPart.extract
  split
  . unfold blobExtract
    split <;> rfl
  . split
    . cases p.text <;> rfl
    . cases p.imageUrl <;> rfl
    . rfl

theorem filterMap_tree?_content (c : Content)
    : c.extracts.filterMap (fun e => e.fields.tree?) = [] := by
  cases c with
  | text s => rfl
  | parts ps => simp [Content.extracts, tree?_extract]

theorem trees_turn (m : Message) : m.turn.toMessage.trees = m.trees := by
  have hcontent : ((m.content.map Content.extracts).getD []).filterMap (fun e => e.fields.tree?)
      = [] := by
    cases m.content with
    | none => rfl
    | some c => exact filterMap_tree?_content c
  have hcalls : ((m.toolCalls.getD []).map ToolCall.extract).filterMap (fun e => e.fields.tree?)
      = (m.toolCalls.getD []).filterMap fun c =>
          (c.function.bind (·.arguments)).map structured :=
    List.filterMap_map
  have hparts (role : Chat.Role) (extracts : List Chat.Extract)
      : (Chat.Turn.ofExtracts role extracts).parts.filterMap PartFields.tree?
          = extracts.filterMap fun e => e.fields.tree? :=
    List.filterMap_map
  rw [Chat.Turn.trees_toMessage]
  unfold Message.turn Message.trees
  cases roleOf m.role with
  | tool => cases m.content <;> rfl
  | _ =>
    dsimp only
    rw [hparts, List.filterMap_append, hcontent, hcalls, List.nil_append]

theorem trees_request (request : Request)
    : (Chat.normalizeInput (request.messages.map Message.turn)).flatMap Chat.Message.trees
        =
      request.messages.flatMap Message.trees := by
  simp [Chat.normalizeInput, List.flatMap_map, trees_turn]

/-- Candidates without a message have no trees, whether they are kept or not. -/
theorem trees_candidate (mapping : Chat.CandidateMapping) (c : Choice)
    : (Chat.normalizeOutput mapping [c.candidate]).flatMap Chat.Choice.trees
        =
      c.message.toList.flatMap Message.trees := by
  obtain ⟨index, message, reason⟩ := c
  cases message with
  | none => cases mapping <;> rfl
  | some m =>
    have hm : (Chat.normalizeOutput mapping [(Choice.mk index (some m) reason).candidate])
        = [⟨(Choice.mk index (some m) reason).candidate.finishReason, some m.turn.toMessage⟩] := by
      cases mapping <;> rfl
    rw [hm]
    simp [Chat.Choice.trees, trees_turn]

theorem trees_response (mapping : Chat.CandidateMapping) (response : Response)
    : (Chat.normalizeOutput mapping (response.choices.map Choice.candidate)).flatMap
          Chat.Choice.trees
        =
      response.choices.flatMap fun c => c.message.toList.flatMap Message.trees := by
  induction response.choices with
  | nil => rfl
  | cons c rest ih =>
    rw [List.flatMap_cons, ← trees_candidate mapping c, ← ih, ← List.flatMap_append]
    unfold Chat.normalizeOutput
    rw [← List.filterMap_append]
    rfl

end Payload.OpenAi

namespace Emission

open Payload
open Storage (Filesystem.uploadAll)
open Telemetry (Duration)

/-- The trees that are read from texts for a collection. -/
def Collection.trees (request : OpenAi.Request) (response : OpenAi.Response)
    : Collection → List Value
  | input => request.messages.flatMap OpenAi.Message.trees
  | output => response.choices.flatMap fun c => c.message.toList.flatMap OpenAi.Message.trees
  | system => []

section

variable {mapping : Chat.CandidateMapping} {duration : Duration} {request : OpenAi.Request}
  {response : OpenAi.Response} {c : Collection} {v : Value}

theorem canonical_of_mem_trees {tree : Value} (h : tree ∈ c.trees request response)
    : tree.canonical = tree := by
  cases c with
  | input =>
    obtain ⟨m, _, htree⟩ := List.mem_flatMap.mp h
    exact OpenAi.canonical_of_mem_trees htree
  | output =>
    obtain ⟨choice, _, h⟩ := List.mem_flatMap.mp h
    obtain ⟨m, _, htree⟩ := List.mem_flatMap.mp h
    exact OpenAi.canonical_of_mem_trees htree
  | system => exact absurd h List.not_mem_nil

theorem mem_collections_ofOpenAi
    (h : (c, v) ∈ (Conversation.ofOpenAi mapping duration request response).details.collections)
    : (∀ n, v.depth ≤ n + 4 ↔ ∀ tree ∈ c.trees request response, tree.depth ≤ n) ∧
        ((∀ tree ∈ c.trees request response, tree.IsReadable) → v.IsReadable) := by
  have hcases : (c = .input ∧ v = Chat.messagesToWire
        (Chat.normalizeInput (request.messages.map OpenAi.Message.turn))) ∨
      (c = .output ∧ v = Chat.choicesToWire
        (Chat.normalizeOutput mapping (response.choices.map OpenAi.Choice.candidate))) := by
    simpa [Details.collections, Details.system?, Conversation.ofOpenAi] using h
  rcases hcases with ⟨rfl, rfl⟩ | ⟨rfl, rfl⟩
  . refine ⟨fun n => ?_, fun hreadable => Chat.isReadable_messagesToWire ?_⟩
    . rw [Chat.depth_messagesToWire_le_iff, OpenAi.trees_request]
      rfl
    . rw [OpenAi.trees_request]
      exact hreadable
  . refine ⟨fun n => ?_, fun hreadable => Chat.isReadable_choicesToWire ?_⟩
    . rw [Chat.depth_choicesToWire_le_iff, OpenAi.trees_response]
      rfl
    . rw [OpenAi.trees_response]
      exact hreadable

end

theorem Keeping.read_collection {base : List UInt8} (k : Keeping base) {w : World}
    (hw : w.isSuppressed = false) {c : Collection} {v : Value} {locator : String}
    (h : ((c, v), .ok locator)
      ∈ k.details.collections.zip (Filesystem.uploadAll base k.objects w.files).1)
    : let path := Storage.Filesystem.objectPath base (c.objectName k.responseId)
      locator = Storage.shownPath path ∧ (k.call.perform w).files.read path = .ok v.text := by
  have hobject : ((c.objectName k.responseId, v), .ok locator)
      ∈ k.objects.zip (Filesystem.uploadAll base k.objects w.files).1 := by
    unfold Keeping.objects Details.objects
    rw [List.zip_map_left, List.mem_map]
    exact ⟨((c, v), .ok locator), h, rfl⟩
  obtain ⟨_, hfiles, _⟩ := k.perform_eq hw
  rw [hfiles]
  exact (Storage.Filesystem.read_of_uploadAll (k.details.nodup_objects k.responseId) hobject).2

/--
When a conversation of whole numbers is kept in files, each file that could be written is read as
the collection that it was written for, provided that no tree in it is nested more than 123 levels
deep; otherwise it is not read at all. The locator shows the path of this file.
-/
theorem kept_content_is_read_back {base : List UInt8} {k : Keeping base}
    {mapping : Chat.CandidateMapping} {duration : Duration} {request : OpenAi.Request}
    {response : OpenAi.Response}
    (hdetails : k.details = (Conversation.ofOpenAi mapping duration request response).details)
    {w : World} (hw : w.isSuppressed = false)
    : let after := k.call.perform w
      let uploaded := Filesystem.uploadAll base k.objects w.files
      after.completions = w.completions ++ [k.event uploaded.1] ∧
      ∀ c v locator, ((c, v), .ok locator) ∈ k.details.collections.zip uploaded.1 →
        (∀ tree ∈ c.trees request response, tree.hasWholeNumbers) →
        let path := Storage.Filesystem.objectPath base (c.objectName k.responseId)
        locator = Storage.shownPath path ∧
        (Text.bytes locator = path ↔ Storage.IsTextual base) ∧
        ∃ content, after.files.read path = .ok content ∧
          ∀ read, Json.read content = .ok read
            ↔ read = v ∧ ∀ tree ∈ c.trees request response, tree.depth ≤ 123 := by
  intro after uploaded
  obtain ⟨_, _, hcompletions⟩ := k.perform_eq hw
  refine ⟨hcompletions, ?_⟩
  intro c v locator hmem hnumbers
  have hv : (c, v)
      ∈ (Conversation.ofOpenAi mapping duration request response).details.collections :=
    hdetails ▸ (List.of_mem_zip hmem).1
  obtain ⟨hdepth, hreadable⟩ := mem_collections_ofOpenAi hv
  have hv := hreadable fun tree htree => ⟨hnumbers tree htree, canonical_of_mem_trees htree⟩
  obtain ⟨hlocator, hcontent⟩ := k.read_collection hw hmem
  refine ⟨hlocator, hlocator ▸ Storage.Filesystem.bytes_locator_iff, v.text, hcontent, ?_⟩
  intro read
  rw [Json.read_text_iff hv.whole hv.canonical, ← hdepth 123]
  rfl

/-! ### A single tool call -/

/-- A request that holds one tool call. -/
def oneToolCall (arguments : String) : OpenAi.Request :=
  let function : OpenAi.FunctionCall := { name := some "f", arguments := some arguments }
  { model := none
    messages :=
      [{ role := some "assistant", content := none, name := none
         toolCalls := some [{ id := some "1", function := some function }], toolCallId := none }] }

def noChoices : OpenAi.Response :=
  { id := none, model := none, choices := [], usage := none }

/-- The base of what is kept. -/
def storeBase : List UInt8 :=
  Text.bytes "/store"

def keptToolCall (arguments : String) : Keeping storeBase :=
  let details :=
    (Conversation.ofOpenAi .keepEmpty ⟨0, 0⟩ (oneToolCall arguments) noChoices).details
  { emitter :=
      { storage := .injected (.filesystem storeBase), capture := { messageContent := true } }
    attributes := []
    operation := .completion details .reference "r"
    details
    responseId := "r"
    storage := rfl
    capture := rfl
    keeps := .inl rfl }

def emptyStore : World :=
  { World.blank with files := ⟨[([Text.bytes "store"], .directory)], []⟩ }

theorem objectPath_storeBase
    : Storage.Filesystem.objectPath storeBase (Collection.input.objectName "r")
        =
      Text.bytes "/store/r_input.json" := by
  decide

theorem mem_zip_keptToolCall (arguments : String)
    : let k := keptToolCall arguments
      let uploaded := Filesystem.uploadAll storeBase k.objects emptyStore.files
      ((Collection.input, Chat.messagesToWire k.details.input), .ok "/store/r_input.json")
        ∈ k.details.collections.zip uploaded.1 := by
  intro k uploaded
  have hresult (v : Value)
      : (Storage.Filesystem.upload storeBase (Collection.input.objectName "r") v
          emptyStore.files).result
        = .ok "/store/r_input.json" := by
    rfl
  change _ ∈ ((Collection.input, _),
    (Storage.Filesystem.upload storeBase (Collection.input.objectName "r") _ _).result) :: _
  rw [hresult]
  exact List.mem_cons_self

theorem trees_oneToolCall (arguments : String)
    : Collection.input.trees (oneToolCall arguments) noChoices = [OpenAi.structured arguments] := by
  rfl

theorem kept_content_is_read_back_of_negative_zero
    : let tree : Value := .array [.array [.double .negativeZero], .int (-12), .null]
      let k := keptToolCall tree.text
      let wire := Chat.messagesToWire k.details.input
      ∃ content,
        (k.call.perform emptyStore).files.read (Text.bytes "/store/r_input.json") = .ok content ∧
        Json.read content = .ok wire := by
  intro tree k wire
  have hdepth : tree.depth ≤ 123 := by decide
  have htree : OpenAi.structured tree.text = tree :=
    OpenAi.structured_of_isReadable ⟨rfl, rfl⟩ (by decide)
  have htrees : Collection.input.trees (oneToolCall tree.text) noChoices = [tree] := by
    rw [trees_oneToolCall, htree]
  rw [← objectPath_storeBase]
  obtain ⟨_, hkept⟩ := @kept_content_is_read_back storeBase k .keepEmpty ⟨0, 0⟩
    (oneToolCall tree.text) noChoices rfl emptyStore rfl
  obtain ⟨-, -, content, hcontent, hread⟩ := hkept _ _ _ (mem_zip_keptToolCall tree.text) (by
    rw [htrees]
    exact List.forall_mem_singleton.mpr rfl)
  refine ⟨content, hcontent, (hread wire).mpr ⟨rfl, ?_⟩⟩
  rw [htrees]
  exact List.forall_mem_singleton.mpr hdepth

/-- Empty arrays inside one another, one more than so many. -/
def nested : Nat → Value
  | 0 => .array []
  | n + 1 => .array [nested n]

theorem depth_nested (n : Nat) : (nested n).depth = n + 1 := by
  induction n with
  | zero => rfl
  | succ n ih => simp [nested, Value.depth, Value.itemsDepth, ih]

theorem isReadable_nested (n : Nat) : (nested n).IsReadable := by
  induction n with
  | zero => exact Value.isReadable_array fun v hv => absurd hv List.not_mem_nil
  | succ n ih => exact Value.isReadable_array (List.forall_mem_singleton.mpr ih)

/--
Arguments of 124 arrays inside one another are read, but what is stored with them in it is not; and
an integer of more than 64 bits is read as a double, which is stored with digits that are read as
another one.
-/
theorem kept_content_may_not_be_read_back
    : let stored (arguments : String) :=
        ((keptToolCall arguments).call.perform emptyStore).files.read
          (Text.bytes "/store/r_input.json")
      let wire (arguments : String) :=
        Chat.messagesToWire (keptToolCall arguments).details.input
      let deep := (nested 123).text
      let large := "458732263147249134551470740"
      (stored deep = .ok (wire deep).text ∧ ∀ read, Json.read (wire deep).text ≠ .ok read) ∧
        stored large = .ok (wire large).text ∧ Json.read (wire large).text ≠ .ok (wire large) := by
  intro stored wire deep large
  have hstored : ∀ arguments, stored arguments = .ok (wire arguments).text := by
    intro arguments
    unfold stored
    rw [← objectPath_storeBase]
    exact ((keptToolCall arguments).read_collection rfl (mem_zip_keptToolCall arguments)).2
  refine ⟨⟨hstored deep, ?_⟩, hstored large, ?_⟩
  . intro read hread
    have hdeep : OpenAi.structured deep = nested 123 :=
      OpenAi.structured_of_isReadable (isReadable_nested 123)
        ((depth_nested 123).trans_le (by decide))
    have hwire : (Collection.input, wire deep) ∈ (keptToolCall deep).details.collections :=
      List.mem_cons_self
    obtain ⟨hdepth, hreadable⟩ := mem_collections_ofOpenAi hwire
    rw [trees_oneToolCall, hdeep] at hdepth hreadable
    have hwire := hreadable (List.forall_mem_singleton.mpr (isReadable_nested 123))
    obtain ⟨_, hle⟩ := (Json.read_text_iff hwire.whole hwire.canonical).mp hread
    have hnested := (hdepth 123).mp hle (nested 123) (List.mem_singleton_self _)
    rw [depth_nested] at hnested
    exact absurd hnested (by decide)
  . intro hread
    have hsame : (wire large).same (wire large) = true := by decide +kernel
    have hother : (Json.read (wire large).text).toOption.all (·.same (wire large)) = false := by
      decide +kernel
    rw [hread] at hother
    cases hsame.symm.trans hother

end Emission
end ChatTelemetry
