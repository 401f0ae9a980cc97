import ChatTelemetry.Chat.Wire
import ChatTelemetry.Proofs.Base64

/-!
This module shows what can be read back from the wire form of a conversation: all of it but three
things. A raw role or a raw finish reason cannot be told from the one that its text names, and
arguments or a result that are null cannot be told from ones that are left out.
-/

namespace ChatTelemetry

namespace Json.Value

def text? : Value → Option String
  | string s => some s
  | _ => none

def items? : Value → Option (List Value)
  | array items => some items
  | _ => none

/-- The tree, unless it is null. -/
def present? : Value → Option Value
  | null => none
  | v => some v

def textAt? (v : Value) (key : String) : Option String :=
  (v.get? key).bind text?

/-- The keys of an object, in order. -/
def keys : Value → List String
  | object fields => fields.map Prod.fst
  | _ => []

theorem getD_present? (v : Value) : v.present?.getD .null = v := by
  cases v <;> rfl

theorem string_beq (s t : String) : (string s == string t) = (s == t) := by
  rfl

theorem array_cons_beq (v w : Value) (vs ws : List Value)
    : (array (v :: vs) == array (w :: ws)) = (v == w && array vs == array ws) := by
  rfl

theorem object_nil_beq : (object [] == object []) = true := by
  rfl

theorem object_cons_beq (j k : String) (v w : Value) (vs ws : List (String × Value))
    : (object ((j, v) :: vs) == object ((k, w) :: ws))
        = (j == k && v == w && object vs == object ws) := by
  rfl

theorem ofText?_beq (s t : Option String) : (ofText? s == ofText? t) = (s == t) := by
  cases s <;> cases t <;> rfl

/-- An absent tree and a null one are written alike. -/
theorem getD_bind_present? (v : Option Value) : (v.bind present?).getD .null = v.getD .null := by
  cases v with
  | none => rfl
  | some v => exact v.getD_present?

theorem getD_null_beq (v w : Option Value)
    : (v.getD .null == w.getD .null) = (v.bind present? == w.bind present?) := by
  cases v with
  | none =>
    cases w with
    | none => rfl
    | some w => cases w <;> rfl
  | some v =>
    cases w with
    | none => cases v <;> rfl
    | some w => cases v <;> cases w <;> rfl

end Json.Value

namespace Chat

open Json (Value)

/-! ### Roles and finish reasons -/

/-- Values with texts, where `ofText` finds of all that have a text the one in normal form. -/
structure IsNaming (text : α → String) (ofText : String → α) (normal : α → α) : Prop where
  ofText_text : ∀ a, ofText (text a) = normal a
  text_ofText : ∀ s, text (ofText s) = s

namespace IsNaming

variable {text : α → String} {ofText : String → α} {normal : α → α}
  (h : IsNaming text ofText normal)

include h

theorem text_eq_iff (a b : α) : text a = text b ↔ normal a = normal b := by
  rw [← h.ofText_text, ← h.ofText_text]
  constructor
  . intro htext
    rw [htext]
  . intro hnormal
    rw [← h.text_ofText (text a), ← h.text_ofText (text b), hnormal]

theorem text_beq [BEq α] [LawfulBEq α] (a b : α)
    : (text a == text b) = (normal a == normal b) := by
  rw [Bool.eq_iff_iff]
  simp [h.text_eq_iff]

end IsNaming

namespace Role

/-- The role that a text names, or else a raw one. -/
def ofText (text : String) : Role :=
  match text with
  | "system" => .system
  | "user" => .user
  | "assistant" => .assistant
  | "tool" => .tool
  | raw => .other raw

/-- A raw role is replaced by the one that its text names. -/
def normal : Role → Role
  | other raw => ofText raw
  | r => r

theorem isNaming : IsNaming text ofText normal where
  ofText_text r := by cases r <;> rfl
  text_ofText s := by
    unfold ofText
    split <;> rfl

end Role

namespace FinishReason

/-- The finish reason that a text names, or else a raw one. -/
def ofText (text : String) : FinishReason :=
  match text with
  | "stop" => .stop
  | "length" => .length
  | "content_filter" => .contentFilter
  | "tool_call" => .toolCall
  | "error" => .error
  | raw => .other raw

/-- A raw finish reason is replaced by the one that its text names. -/
def normal : FinishReason → FinishReason
  | other raw => ofText raw
  | r => r

theorem isNaming : IsNaming text ofText normal where
  ofText_text r := by cases r <;> rfl
  text_ofText s := by
    unfold ofText
    split <;> rfl

end FinishReason

/-! ### Wire forms -/

/--
A wire form that has of a value its normal form, which `read` gets back, and nothing else. Both for
identity and for the equality that takes doubles as numbers, values have one wire form exactly if
they have one normal form.
-/
structure IsWireForm [BEq α] (toWire : α → Value) (read : Value → Option α) (normal : α → α)
    : Prop where
  read_toWire : ∀ a, read (toWire a) = some (normal a)
  toWire_eq_iff : ∀ a b, toWire a = toWire b ↔ normal a = normal b
  toWire_beq : ∀ a b, (toWire a == toWire b) = (normal a == normal b)

def listOfWire? (read : Value → Option α) (v : Value) : Option (List α) :=
  v.items?.bind (·.mapM read)

theorem IsWireForm.list [BEq α] {toWire : α → Value} {read : Value → Option α} {normal : α → α}
    (h : IsWireForm toWire read normal)
    : IsWireForm (fun as => .array (as.map toWire)) (listOfWire? read) (List.map normal) := by
  constructor
  . intro as
    change (as.map toWire).mapM read = some (as.map normal)
    induction as with
    | nil => rfl
    | cons a as ih => simp [List.mapM_cons, h.read_toWire, ih]
  . intro as bs
    rw [Value.array.injEq]
    induction as generalizing bs with
    | nil => cases bs <;> simp
    | cons a as ih =>
      cases bs with
      | nil => simp
      | cons b bs => simp [h.toWire_eq_iff, ih]
  . intro as bs
    induction as generalizing bs with
    | nil => cases bs <;> rfl
    | cons a as ih =>
      cases bs with
      | nil => rfl
      | cons b bs =>
        rw [List.map_cons, List.map_cons, Value.array_cons_beq, h.toWire_beq, ih]
        rfl

/-! ### Parts -/

namespace Part

/-- Arguments and a result that are null are left out. -/
def normal : Part → Part
  | toolCallRequest id name arguments => .toolCallRequest id name (arguments.bind Value.present?)
  | toolCallResponse id name result => .toolCallResponse id name (result.bind Value.present?)
  | p => p

/-- The part with this wire form, in normal form. -/
def ofWire? (v : Value) : Option Part := do
  match ← v.textAt? "type" with
  | "text" => return .text (← v.textAt? "content")
  | "blob" =>
    return .blob (← v.textAt? "mime_type") (← Base64.decode? (← v.textAt? "data").toList)
  | "file_reference" => return .fileReference (← v.textAt? "mime_type") (← v.textAt? "uri")
  | "tool_call_request" =>
    return .toolCallRequest (← v.textAt? "id") (← v.textAt? "name")
      ((v.get? "arguments").bind Value.present?)
  | "tool_call_response" =>
    return .toolCallResponse (← v.textAt? "id") (v.textAt? "name")
      ((v.get? "result").bind Value.present?)
  | "unknown" => return .unknown
  | _ => none

theorem ofWire?_toWire (p : Part) : ofWire? p.toWire = some p.normal := by
  cases p with
  | text content => rfl
  | blob mimeType data =>
    have hdata : Base64.decode? (String.ofList (Base64.encode data)).toList = some data := by
      rw [String.toList_ofList, Base64.decode?_encode]
    change (Base64.decode? (String.ofList (Base64.encode data)).toList).bind
      (fun bytes => some (Part.blob mimeType bytes)) = _
    rw [hdata]
    rfl
  | fileReference mimeType uri => rfl
  | toolCallRequest id name arguments => cases arguments <;> rfl
  | toolCallResponse id name result => cases name <;> cases result <;> rfl
  | unknown => rfl

theorem toWire_normal (p : Part) : p.normal.toWire = p.toWire := by
  cases p with
  | toolCallRequest id name arguments => simp [normal, toWire, Value.getD_bind_present?]
  | toolCallResponse id name result => simp [normal, toWire, Value.getD_bind_present?]
  | _ => rfl

theorem toWire_eq_iff (p q : Part) : p.toWire = q.toWire ↔ p.normal = q.normal := by
  constructor
  . intro h
    apply Option.some.inj
    rw [← ofWire?_toWire, ← ofWire?_toWire, h]
  . intro h
    rw [← toWire_normal p, ← toWire_normal q, h]

theorem encode_beq (as bs : List UInt8)
    : (String.ofList (Base64.encode as) == String.ofList (Base64.encode bs)) = (as == bs) := by
  rw [Bool.eq_iff_iff]
  simp [String.ofList_inj, Base64.encode_injective.eq_iff]

-- Parts of two kinds differ in the first key already, which `rfl` finds by itself.
theorem toWire_beq (p q : Part) : (p.toWire == q.toWire) = (p.normal == q.normal) := by
  cases p with
  | text content =>
    cases q with
    | text content' =>
      change _ = (content == content')
      simp [toWire, Value.object_cons_beq, Value.object_nil_beq, Value.string_beq]
    | _ => rfl
  | blob mimeType data =>
    cases q with
    | blob mimeType' data' =>
      change _ = (mimeType == mimeType' && data == data')
      simp only [toWire, Value.object_cons_beq, Value.object_nil_beq, Value.string_beq, encode_beq]
      simp [Bool.and_comm]
    | _ => rfl
  | fileReference mimeType uri =>
    cases q with
    | fileReference mimeType' uri' =>
      change _ = (mimeType == mimeType' && uri == uri')
      simp [toWire, Value.object_cons_beq, Value.object_nil_beq, Value.string_beq]
    | _ => rfl
  | toolCallRequest id name arguments =>
    cases q with
    | toolCallRequest id' name' arguments' =>
      change _ = (id == id' && (name == name' &&
        arguments.bind Value.present? == arguments'.bind Value.present?))
      simp only [toWire, Value.object_cons_beq, Value.object_nil_beq, Value.string_beq,
        Value.getD_null_beq, beq_self_eq_true, Bool.true_and, Bool.and_true]
      ac_rfl
    | _ => rfl
  | toolCallResponse id name result =>
    cases q with
    | toolCallResponse id' name' result' =>
      change _ = (id == id' && (name == name' &&
        result.bind Value.present? == result'.bind Value.present?))
      simp [toWire, Value.object_cons_beq, Value.object_nil_beq, Value.string_beq,
        Value.getD_null_beq, Value.ofText?_beq]
    | _ => rfl
  | unknown => cases q <;> rfl

theorem isWireForm : IsWireForm toWire ofWire? normal :=
  ⟨ofWire?_toWire, toWire_eq_iff, toWire_beq⟩

/-- The keys in the wire form of a part of this kind. -/
def wireKeys (kind : String) : List String :=
  match kind with
  | "text" => ["content", "type"]
  | "blob" => ["data", "mime_type", "type"]
  | "file_reference" => ["mime_type", "type", "uri"]
  | "tool_call_request" => ["arguments", "id", "name", "type"]
  | "tool_call_response" => ["id", "name", "result", "type"]
  | _ => ["type"]

theorem keys_toWire (p : Part) : p.toWire.keys = wireKeys p.kind := by
  cases p <;> rfl

theorem type_toWire (p : Part) : p.toWire.textAt? "type" = some p.kind := by
  cases p <;> rfl

def bytes? : Part → Option (List UInt8)
  | blob _ data => some data
  | _ => none

/-- The name in a tool's response; it may be left out. -/
def responder? : Part → Option (Option String)
  | toolCallResponse _ name _ => some name
  | _ => none

theorem kept_normal (p : Part)
    : (p.normal.kind, p.normal.bytes?, p.normal.responder?) = (p.kind, p.bytes?, p.responder?) := by
  cases p <;> rfl

end Part

/-! ### Messages and choices -/

namespace Message

def normal (m : Message) : Message :=
  ⟨m.role.normal, m.parts.map Part.normal⟩

/-- The message with this wire form, in normal form. -/
def ofWire? (v : Value) : Option Message := do
  let role ← v.textAt? "role"
  let parts ← v.get? "parts"
  return ⟨.ofText role, ← listOfWire? Part.ofWire? parts⟩

theorem isWireForm : IsWireForm toWire ofWire? normal where
  read_toWire m := by
    have hparts := Part.isWireForm.list.read_toWire m.parts
    change (listOfWire? Part.ofWire? (.array (m.parts.map Part.toWire))).bind
      (fun parts => some (Message.mk (.ofText m.role.text) parts)) = _
    rw [hparts, Role.isNaming.ofText_text]
    rfl
  toWire_eq_iff m n := by
    have hparts := Part.isWireForm.list.toWire_eq_iff m.parts n.parts
    simp [toWire, partsToWire, normal, hparts, Role.isNaming.text_eq_iff, and_comm]
  toWire_beq m n := by
    have hparts := Part.isWireForm.list.toWire_beq m.parts n.parts
    change _ = (m.role.normal == n.role.normal &&
      m.parts.map Part.normal == n.parts.map Part.normal)
    unfold toWire partsToWire
    rw [Value.object_cons_beq, Value.object_cons_beq, Value.object_nil_beq, Value.string_beq]
    rw [hparts, Role.isNaming.text_beq]
    simp [Bool.and_comm]

end Message

namespace Choice

def normal (c : Choice) : Choice :=
  ⟨c.finishReason.normal, c.message.map Message.normal⟩

/-- The choice with this wire form, in normal form. -/
def ofWire? (v : Value) : Option Choice := do
  let reason ← v.textAt? "finish_reason"
  return ⟨.ofText reason, Message.ofWire? v⟩

-- The fields of a message follow the finish reason, so that two choices with messages are compared
-- by their finish reasons and then as these messages.
theorem isWireForm : IsWireForm toWire ofWire? normal where
  read_toWire c := by
    obtain ⟨reason, message⟩ := c
    cases message with
    | none =>
      change some (Choice.mk (.ofText reason.text) none) = _
      rw [FinishReason.isNaming.ofText_text]
      rfl
    | some m =>
      change some (Choice.mk (.ofText reason.text) (Message.ofWire? m.toWire)) = _
      rw [FinishReason.isNaming.ofText_text, Message.isWireForm.read_toWire]
      rfl
  toWire_eq_iff c d := by
    obtain ⟨reason, message⟩ := c
    obtain ⟨reason', message'⟩ := d
    cases message with
    | none => cases message' <;> simp [toWire, normal, FinishReason.isNaming.text_eq_iff]
    | some m =>
      cases message' with
      | none => simp [toWire, normal]
      | some n =>
        have hmessage := Message.isWireForm.toWire_eq_iff m n
        simp only [toWire, Value.object.injEq, List.cons.injEq, Prod.mk.injEq, true_and,
          Value.string.injEq, FinishReason.isNaming.text_eq_iff]
        simp only [normal, Choice.mk.injEq, Option.map_some, Option.some.injEq, ← hmessage]
        simp [Message.toWire]
  toWire_beq c d := by
    obtain ⟨reason, message⟩ := c
    obtain ⟨reason', message'⟩ := d
    change _ = (reason.normal == reason'.normal &&
      message.map Message.normal == message'.map Message.normal)
    rw [← FinishReason.isNaming.text_beq]
    cases message with
    | none =>
      cases message' with
      | none => simp [toWire, Value.object_cons_beq, Value.object_nil_beq, Value.string_beq]
      | some n =>
        change (_ && false) = (_ && false)
        rw [Bool.and_false, Bool.and_false]
    | some m =>
      cases message' with
      | none =>
        change (_ && false) = (_ && false)
        rw [Bool.and_false, Bool.and_false]
      | some n =>
        change _ = (_ && m.normal == n.normal)
        rw [← Message.isWireForm.toWire_beq]
        rfl

end Choice

/-! ### What can be read back -/

/--
Parts, messages, choices and lists of them keep in their wire form just their normal form. So the
order of parts, their kinds, the bytes of blobs and the names in tool responses can be read back,
as can the presence of a choice's message; and the keys of a part are those of its kind.
-/
theorem wire_form_keeps_normal_form
    : IsWireForm Part.toWire Part.ofWire? Part.normal ∧
      IsWireForm Message.toWire Message.ofWire? Message.normal ∧
      IsWireForm Choice.toWire Choice.ofWire? Choice.normal ∧
      IsWireForm messagesToWire (listOfWire? Message.ofWire?) (List.map Message.normal) ∧
      IsWireForm choicesToWire (listOfWire? Choice.ofWire?) (List.map Choice.normal) ∧
      (∀ m n : Message, m.toWire = n.toWire →
        m.parts.map (fun p => (p.kind, p.bytes?, p.responder?))
          = n.parts.map (fun p => (p.kind, p.bytes?, p.responder?))) ∧
      (∀ c d : Choice, c.toWire = d.toWire → c.message.isSome = d.message.isSome) ∧
      ∀ p : Part, p.toWire.keys = Part.wireKeys p.kind ∧ p.toWire.textAt? "type" = some p.kind := by
  refine ⟨Part.isWireForm, Message.isWireForm, Choice.isWireForm, Message.isWireForm.list,
    Choice.isWireForm.list, ?_, ?_, ?_⟩
  . intro m n h
    have hparts : m.parts.map Part.normal = n.parts.map Part.normal :=
      congrArg Message.parts ((Message.isWireForm.toWire_eq_iff m n).mp h)
    have hkept := congrArg (List.map fun p => (p.kind, p.bytes?, p.responder?)) hparts
    rw [List.map_map, List.map_map] at hkept
    simpa only [Function.comp_def, Part.kept_normal] using hkept
  . intro c d h
    have hmessage : c.message.map Message.normal = d.message.map Message.normal :=
      congrArg Choice.message ((Choice.isWireForm.toWire_eq_iff c d).mp h)
    simpa using congrArg Option.isSome hmessage
  . intro p
    exact ⟨p.keys_toWire, p.type_toWire⟩

end Chat
end ChatTelemetry
