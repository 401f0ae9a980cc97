import ChatTelemetry.Payload.Google
import ChatTelemetry.Proofs.Base64Rule

/-!
This module shows which of the fields on a part decides what becomes of it: the first that holds
something. Inline data whose text stands for no bytes are passed over, and the next field decides.
-/

namespace ChatTelemetry

open Chat (PartFields)

namespace Chat

/-- Nothing becomes of a part exactly if nothing was found on it. -/
theorem PartFields.toPart_eq_unknown_iff {f : PartFields} {i : Nat}
    : f.toPart i = .unknown ↔ f.isEmpty = true := by
  obtain ⟨text, blob, file, toolCall, toolResponse⟩ := f
  cases text with
  | some content => simp [toPart, isEmpty]
  | none =>
    cases blob with
    | some b => simp [toPart, isEmpty]
    | none =>
      cases file with
      | some r => simp [toPart, isEmpty]
      | none => cases toolCall <;> cases toolResponse <;> simp [toPart, isEmpty]

end Chat

namespace Payload.Google

/-! ### Inline data -/

/-- The bytes of inline data; data that is left out has no bytes. -/
def Blob.StandsFor (b : Blob) (bytes : List UInt8) : Prop :=
  match b.data with
  | none => bytes = []
  | some encoded => Base64.IsEncodingOf encoded.toList bytes

theorem Blob.read_eq_ok_iff {b : Blob} {bytes : List UInt8}
    : b.read = .ok bytes ↔ b.StandsFor bytes := by
  unfold read StandsFor
  cases b.data with
  | none => simp [eq_comm]
  | some encoded => exact Base64.read_eq_ok_iff

/-- There are no inline data, or none that stand for bytes. -/
def Part.HasNoBytes (p : Part) : Prop :=
  ∀ b bytes, p.inlineData = some b → ¬b.StandsFor bytes

theorem Part.blob_fields_eq_some_iff {p : Part} {f : Chat.BlobFields}
    : p.fields.blob = some f ↔
        ∃ b, p.inlineData = some b ∧ b.StandsFor f.data ∧ b.mimeType = f.mimeType := by
  obtain ⟨mimeType, data⟩ := f
  simp only [fields, extract, blob?, ← Blob.read_eq_ok_iff]
  cases p.inlineData with
  | none => simp
  | some b =>
    cases hread : b.read with
    | ok bytes => simp [hread, Except.map, Except.toOption, and_comm]
    | error encoded => simp [hread, Except.map, Except.toOption]

theorem Part.blob_fields_eq_none_iff {p : Part} : p.fields.blob = none ↔ p.HasNoBytes := by
  rw [Option.eq_none_iff_forall_ne_some]
  constructor
  . intro h b bytes hb hbytes
    exact h ⟨b.mimeType, bytes⟩ (blob_fields_eq_some_iff.mpr ⟨b, hb, hbytes, rfl⟩)
  . intro h f hf
    obtain ⟨b, hb, hbytes, -⟩ := blob_fields_eq_some_iff.mp hf
    exact h b f.data hb hbytes

/-! ### The field that decides -/

/-- A field of a part with what it holds. -/
inductive Finding
  | text (content : String)
  | inlineData (mimeType : Option String) (bytes : List UInt8)
  | fileData (f : FileData)
  | functionCall (c : FunctionCall)
  | functionResponse (r : FunctionResponse)
  | nothing

def Finding.part : Finding → (position : Nat) → Chat.Part
  | text content, _ => .text content
  | inlineData mimeType bytes, _ => .blob (mimeType.getD "") bytes
  | fileData f, _ => .fileReference (f.mimeType.getD "") (f.fileUri.getD "")
  | functionCall c, position =>
    .toolCallRequest (PartFields.callId c.id c.name position) (c.name.getD "") c.args
  | functionResponse r, position =>
    .toolCallResponse (PartFields.callId r.id r.name position) r.name r.response
  | nothing, _ => .unknown

theorem Finding.part_eq_unknown_iff {w : Finding} {i : Nat}
    : w.part i = .unknown ↔ w = .nothing := by
  cases w <;> simp [part]

/-- The field decides what becomes of the part: no other that comes before it is there. -/
inductive Part.DecidedBy (p : Part) : Finding → Prop
  | text {content : String} (text : p.text = some content) : p.DecidedBy (.text content)
  | inlineData {b : Blob} {bytes : List UInt8} (noText : p.text = none)
    (inlineData : p.inlineData = some b) (standsFor : b.StandsFor bytes)
    : p.DecidedBy (.inlineData b.mimeType bytes)
  | fileData {f : FileData} (noText : p.text = none) (noBytes : p.HasNoBytes)
    (fileData : p.fileData = some f)
    : p.DecidedBy (.fileData f)
  | functionCall {c : FunctionCall} (noText : p.text = none) (noBytes : p.HasNoBytes)
    (noFile : p.fileData = none) (functionCall : p.functionCall = some c)
    : p.DecidedBy (.functionCall c)
  | functionResponse {r : FunctionResponse} (noText : p.text = none) (noBytes : p.HasNoBytes)
    (noFile : p.fileData = none) (noCall : p.functionCall = none)
    (functionResponse : p.functionResponse = some r)
    : p.DecidedBy (.functionResponse r)
  | nothing (noText : p.text = none) (noBytes : p.HasNoBytes) (noFile : p.fileData = none)
    (noCall : p.functionCall = none) (noResponse : p.functionResponse = none)
    : p.DecidedBy .nothing

/-- The field that decides, as it is found. -/
def Part.finding (p : Part) : Finding :=
  match p.text, p.fields.blob, p.fileData, p.functionCall, p.functionResponse with
  | some content, _, _, _, _ => .text content
  | none, some b, _, _, _ => .inlineData b.mimeType b.data
  | none, none, some f, _, _ => .fileData f
  | none, none, none, some c, _ => .functionCall c
  | none, none, none, none, some r => .functionResponse r
  | none, none, none, none, none => .nothing

namespace Part

theorem decidedBy_finding (p : Part) : p.DecidedBy p.finding := by
  unfold finding
  split
  case h_1 htext => exact .text htext
  case h_2 htext hblob =>
    obtain ⟨b, hb, hbytes, hmime⟩ := blob_fields_eq_some_iff.mp hblob
    rw [← hmime]
    exact .inlineData htext hb hbytes
  case h_3 htext hblob hfile => exact .fileData htext (blob_fields_eq_none_iff.mp hblob) hfile
  case h_4 htext hblob hfile hcall =>
    exact .functionCall htext (blob_fields_eq_none_iff.mp hblob) hfile hcall
  case h_5 htext hblob hfile hcall hresponse =>
    exact .functionResponse htext (blob_fields_eq_none_iff.mp hblob) hfile hcall hresponse
  case h_6 htext hblob hfile hcall hresponse =>
    exact .nothing htext (blob_fields_eq_none_iff.mp hblob) hfile hcall hresponse

theorem finding_of_decidedBy {p : Part} {w : Finding} (h : p.DecidedBy w) : p.finding = w := by
  cases h with
  | text text => simp [finding, text]
  | @inlineData b bytes noText inlineData standsFor =>
    have hblob : p.fields.blob = some ⟨b.mimeType, bytes⟩ :=
      blob_fields_eq_some_iff.mpr ⟨b, inlineData, standsFor, rfl⟩
    simp [finding, noText, hblob]
  | fileData noText noBytes fileData =>
    simp [finding, noText, blob_fields_eq_none_iff.mpr noBytes, fileData]
  | functionCall noText noBytes noFile functionCall =>
    simp [finding, noText, blob_fields_eq_none_iff.mpr noBytes, noFile, functionCall]
  | functionResponse noText noBytes noFile noCall functionResponse =>
    simp [finding, noText, blob_fields_eq_none_iff.mpr noBytes, noFile, noCall, functionResponse]
  | nothing noText noBytes noFile noCall noResponse =>
    simp [finding, noText, blob_fields_eq_none_iff.mpr noBytes, noFile, noCall, noResponse]

theorem decidedBy_iff {p : Part} {w : Finding} : p.DecidedBy w ↔ p.finding = w := by
  constructor
  . exact finding_of_decidedBy
  . rintro rfl
    exact p.decidedBy_finding

theorem toPart_fields (p : Part) (i : Nat) : p.fields.toPart i = p.finding.part i := by
  unfold finding fields extract
  obtain ⟨text, inlineData, fileData, functionCall, functionResponse⟩ := p
  dsimp only
  generalize Option.bind _ Except.toOption = blob
  cases text with
  | some content => rfl
  | none =>
    cases blob with
    | some b => rfl
    | none =>
      cases fileData with
      | some f => rfl
      | none =>
        cases functionCall with
        | some c => rfl
        | none => cases functionResponse <;> rfl

theorem toPart_of_decidedBy {p : Part} {w : Finding} (h : p.DecidedBy w) (i : Nat)
    : p.fields.toPart i = w.part i := by
  rw [toPart_fields, finding_of_decidedBy h]

end Part

/--
Exactly one field decides what becomes of a part, and no other matters: parts that are decided by
the same field with the same content become the same part at any position. Nothing becomes of a part
on which nothing was found, and of no other.
-/
theorem first_field_decides (p : Part)
    : (∃! w, p.DecidedBy w)
        ∧
      (∀ w, p.DecidedBy w → ∀ i, p.fields.toPart i = w.part i)
        ∧
      (∀ (q : Part) (w : Finding), p.DecidedBy w → q.DecidedBy w →
        ∀ i, p.fields.toPart i = q.fields.toPart i)
        ∧
      (∀ i, p.fields.toPart i = .unknown ↔ p.fields.isEmpty = true)
        ∧
      (p.fields.isEmpty = true ↔ p.DecidedBy .nothing) := by
  refine ⟨?_, ?_, ?_, ?_, ?_⟩
  . refine ⟨p.finding, p.decidedBy_finding, ?_⟩
    intro w h
    exact (Part.finding_of_decidedBy h).symm
  . intro w h i
    exact Part.toPart_of_decidedBy h i
  . intro q w h h' i
    rw [Part.toPart_of_decidedBy h, Part.toPart_of_decidedBy h']
  . intro i
    exact PartFields.toPart_eq_unknown_iff
  . rw [← @PartFields.toPart_eq_unknown_iff _ 0, Part.toPart_fields, Finding.part_eq_unknown_iff]
    exact Part.decidedBy_iff.symm

/-- A file decides where inline data cannot be read, and a call behind it does not matter. -/
theorem first_field_decides_behind_unreadable_data
    : let file : FileData := ⟨none, some "gs://b/f"⟩
      let p : Part :=
        ⟨none, some ⟨some "image/png", some "AQI"⟩, some file, some ⟨none, some "g", none⟩, none⟩
      let q : Part := ⟨none, none, some file, none, none⟩
      p.DecidedBy (.fileData file) ∧ q.DecidedBy (.fileData file) ∧
        p.fields.toPart 3 = .fileReference "" "gs://b/f" ∧
        p.fields.toPart 3 = q.fields.toPart 3 ∧
        p.fields.isEmpty = false := by
  intro file p q
  have hp : p.DecidedBy (.fileData file) := by
    refine .fileData rfl ?_ rfl
    rintro b bytes hb hbytes
    obtain rfl : _ = b := Option.some.inj hb
    rw [← Blob.read_eq_ok_iff] at hbytes
    cases hbytes
  have hq : q.DecidedBy (.fileData file) := .fileData rfl nofun rfl
  obtain ⟨-, hpart, hsame, hunknown, -⟩ := first_field_decides p
  refine ⟨hp, hq, hpart _ hp 3, hsame q _ hp hq 3, ?_⟩
  rw [Bool.eq_false_iff, ne_eq, ← hunknown 3, hpart _ hp 3]
  nofun

end Payload.Google
end ChatTelemetry
