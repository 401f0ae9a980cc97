import ChatTelemetry.Chat.Wire
import ChatTelemetry.Proofs.Base64Rule
import ChatTelemetry.Proofs.DataUri
import ChatTelemetry.Proofs.Places

/-!
This module shows that content given in base64 is written as the very text that it was given as, and
that it is taken for bytes only where the text is the one that they have.
-/

namespace ChatTelemetry

namespace Chat

theorem PartFields.toPart_eq_blob_iff {f : PartFields} (h : f.text = none) {i : Nat}
    {mimeType : String} {bytes : List UInt8}
    : f.toPart i = .blob mimeType bytes ↔
        ∃ b, f.blob = some b ∧ b.mimeType.getD "" = mimeType ∧ b.data = bytes := by
  obtain ⟨_, blob, file, toolCall, toolResponse⟩ := f
  obtain rfl := h
  cases blob with
  | some b => simp [toPart]
  | none =>
    -- Whatever else is found on the part, it is not content.
    cases file <;> cases toolCall <;> cases toolResponse <;> simp [toPart]

theorem Part.data_toWire_blob {mimeType text : String} {bytes : List UInt8}
    (h : Base64.IsEncodingOf text.toList bytes)
    : (Part.blob mimeType bytes).toWire.get? "data" = some (.string text) := by
  rw [Base64.isEncodingOf_iff] at h
  simp [toWire, Json.Value.get?, ← h]

end Chat

namespace Payload

open Chat (Part PartFields Turn)

/--
What is found on a part that has content in base64, and the MIME type that is given with it. A part
of the one format has it as inline data, in the place of a text; a part of the other has it as audio
or behind the first comma of a URL.
-/
inductive Carries (text : String) : PartFields → Option String → Prop
  | inlineData {p : Google.Part} {b : Google.Blob} (noText : p.text = none)
    (inlineData : p.inlineData = some b) (data : b.data = some text)
    : Carries text p.fields b.mimeType
  | inputAudio {p : OpenAi.ContentPart} {audio : OpenAi.InputAudio}
    (type : p.type = some "input_audio") (inputAudio : p.inputAudio = some audio)
    (data : audio.data = text)
    : Carries text p.fields (some ("audio/" ++ audio.format))
  | imageUrl {p : OpenAi.ContentPart} {image : OpenAi.ImageUrl} {mimeType : String}
    (type : p.type = some "image_url") (imageUrl : p.imageUrl = some image)
    (noComma : ',' ∉ mimeType.toList)
    (url : image.url = "data:" ++ mimeType ++ ";base64," ++ text)
    : Carries text p.fields (some mimeType)

theorem OpenAi.fields_of_encoded {p : OpenAi.ContentPart} {mimeType encoded : String}
    (h : p.encoded? = some (mimeType, encoded))
    : p.fields.text = none ∧
        p.fields.blob
          = (Base64.decode? encoded.toList).map fun bytes => ⟨some mimeType, bytes⟩ := by
  rw [ContentPart.fields, ContentPart.extract, h]
  dsimp only [blobExtract, Base64.read]
  cases Base64.decode? encoded.toList with
  | none => exact ⟨rfl, rfl⟩
  | some bytes => exact ⟨rfl, rfl⟩

theorem Carries.fields_eq {text : String} {f : PartFields} {mimeType : Option String}
    (h : Carries text f mimeType)
    : f.text = none ∧
        f.blob = (Base64.decode? text.toList).map fun bytes => ⟨mimeType, bytes⟩ := by
  cases h with
  | @inlineData p b noText inlineData data =>
    have hread : b.read = Base64.read text := by
      rw [Google.Blob.read, data]
    simp only [Google.Part.fields, Google.Part.extract, Google.Part.blob?, inlineData,
      Option.map_some, hread, Base64.read]
    cases Base64.decode? text.toList <;> exact ⟨noText, rfl⟩
  | inputAudio type inputAudio data =>
    apply OpenAi.fields_of_encoded
    simp [OpenAi.ContentPart.encoded?, type, inputAudio, data]
  | imageUrl type imageUrl noComma url =>
    apply OpenAi.fields_of_encoded
    simp [OpenAi.ContentPart.encoded?, type, imageUrl]
    exact OpenAi.dataUri?_eq_some_iff.mpr ⟨noComma, url⟩

theorem Carries.toPart_eq_blob_iff {text : String} {f : PartFields} {mimeType : Option String}
    (h : Carries text f mimeType) {i : Nat} {m : String} {bytes : List UInt8}
    : f.toPart i = .blob m bytes ↔
        mimeType.getD "" = m ∧ Base64.IsEncodingOf text.toList bytes := by
  obtain ⟨htext, hblob⟩ := h.fields_eq
  rw [PartFields.toPart_eq_blob_iff htext, hblob, ← Base64.decode?_eq_some_iff]
  cases Base64.decode? text.toList with
  | none => simp
  | some bytes => simp

/--
A part with content in base64 becomes a blob if and only if the text is the one that some bytes have
by the rule. The blob then has these bytes, and its data is written as the text that was given. All
bytes have such a text, and only one.
-/
theorem base64_content_passes_through {text : String} {f : PartFields} {mimeType : Option String}
    (h : Carries text f mimeType) {t : Turn} {i : Nat} (ht : t.parts[i]? = some f)
    : ∃ part, t.toMessage.parts[i]? = some part ∧
        ((∃ m bytes, part = .blob m bytes) ↔
          ∃ bytes, Base64.IsEncodingOf text.toList bytes) ∧
        (∀ m bytes, part = .blob m bytes → part.toWire.get? "data" = some (.string text)) ∧
        (∀ bytes, Base64.IsEncodingOf text.toList bytes → part = .blob (mimeType.getD "") bytes) ∧
        ∀ bytes, ∃! encoded, Base64.IsEncodingOf encoded bytes := by
  refine ⟨f.toPart i, Turn.parts_toMessage ht, ?_, ?_, ?_, ?_⟩
  . constructor
    . rintro ⟨m, bytes, hpart⟩
      exact ⟨bytes, (h.toPart_eq_blob_iff.mp hpart).2⟩
    . rintro ⟨bytes, hbytes⟩
      exact ⟨_, bytes, h.toPart_eq_blob_iff.mpr ⟨rfl, hbytes⟩⟩
  . intro m bytes hpart
    rw [hpart]
    exact Part.data_toWire_blob (h.toPart_eq_blob_iff.mp hpart).2
  . intro bytes hbytes
    exact h.toPart_eq_blob_iff.mpr ⟨rfl, hbytes⟩
  . intro bytes
    refine ⟨Base64.encode bytes, Base64.isEncodingOf_encode bytes, ?_⟩
    intro encoded hencoded
    exact Base64.isEncodingOf_iff.mp hencoded

/-- Of two images one has bits left over in its last letter. -/
theorem base64_content_passes_through_in_an_image
    : let image (encoded : String) : OpenAi.ContentPart :=
        ⟨some "image_url", none, some ⟨"data:image/png;base64," ++ encoded, none⟩, none⟩
      let m : OpenAi.Message :=
        ⟨some "user", some (.parts [image "AQI=", image "AQJ="]), none, none, none⟩
      (∃ part, m.turn.toMessage.parts[0]? = some part ∧ part = .blob "image/png" [1, 2] ∧
        part.toWire.get? "data" = some (.string "AQI=")) ∧
      ∃ part, m.turn.toMessage.parts[1]? = some part ∧ ∀ m bytes, part ≠ .blob m bytes := by
  intro image m
  have hcarries : ∀ encoded, Carries encoded (image encoded).fields (some "image/png") :=
    fun encoded => .imageUrl rfl rfl (by decide) rfl
  obtain ⟨first, hfirst, _, hdata, hblob, _⟩ :=
    base64_content_passes_through (hcarries "AQI=") (show m.turn.parts[0]? = some _ from rfl)
  obtain ⟨second, hsecond, hnone, _⟩ :=
    base64_content_passes_through (hcarries "AQJ=") (show m.turn.parts[1]? = some _ from rfl)
  have hread : Base64.decode? "AQI=".toList = some [1, 2] := by decide
  have hunread : Base64.decode? "AQJ=".toList = none := by decide
  have hpart := hblob [1, 2] (Base64.decode?_eq_some_iff.mp hread)
  refine ⟨⟨first, hfirst, hpart, hdata _ _ hpart⟩, second, hsecond, ?_⟩
  intro m bytes hpart
  obtain ⟨bytes, hbytes⟩ := hnone.mp ⟨m, bytes, hpart⟩
  rw [← Base64.decode?_eq_some_iff, hunread] at hbytes
  cases hbytes

end Payload
end ChatTelemetry
