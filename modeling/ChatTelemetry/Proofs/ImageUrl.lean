import ChatTelemetry.Proofs.Base64Content

/-!
This module shows which URLs of images are taken for data in base64. Where such data stands for no
bytes, nothing of the URL gets into a message.
-/

namespace ChatTelemetry.Payload.OpenAi

open Chat (Part PartFields)

/-- The URL holds data of this MIME type, given by this text. -/
def IsDataUri (url mimeType encoded : String) : Prop :=
  ',' ∉ mimeType.toList ∧ url = "data:" ++ mimeType ++ ";base64," ++ encoded

/-- The URL holds data whose text stands for no bytes. -/
def IsUnreadable (url : String) : Prop :=
  ∃ mimeType encoded, IsDataUri url mimeType encoded ∧
    ∀ bytes, ¬Base64.IsEncodingOf encoded.toList bytes

theorem IsDataUri.unique {url mimeType mimeType' encoded encoded' : String}
    (h : IsDataUri url mimeType encoded) (h' : IsDataUri url mimeType' encoded')
    : mimeType = mimeType' ∧ encoded = encoded' := by
  have hread := dataUri?_eq_some_iff.mpr h
  rw [dataUri?_eq_some_iff.mpr h'] at hread
  simpa [eq_comm] using hread

theorem dataUri?_eq_none_iff {url : String}
    : dataUri? url = none ↔ ∀ mimeType encoded, ¬IsDataUri url mimeType encoded := by
  rw [Option.eq_none_iff_forall_ne_some]
  constructor
  . intro h mimeType encoded hurl
    apply h (mimeType, encoded)
    exact dataUri?_eq_some_iff.mpr hurl
  . rintro h ⟨mimeType, encoded⟩ hread
    apply h mimeType encoded
    exact dataUri?_eq_some_iff.mp hread

section

variable {mimeType encoded : String}

theorem blobExtract_of_isEncodingOf {bytes : List UInt8}
    (h : Base64.IsEncodingOf encoded.toList bytes)
    : blobExtract mimeType encoded = { fields := { blob := some ⟨some mimeType, bytes⟩ } } := by
  rw [blobExtract, Base64.read_eq_ok_iff.mpr h]

theorem blobExtract_of_not_isEncodingOf (h : ∀ bytes, ¬Base64.IsEncodingOf encoded.toList bytes)
    : blobExtract mimeType encoded = { fields := {}, unreadable := some encoded } := by
  rw [blobExtract, Base64.read_eq_error h]

end

/-! ### Images -/

/-- The part is an image and says so; it may hold other things, which do not count. -/
def ContentPart.IsImage (p : ContentPart) (url : String) : Prop :=
  p.type = some "image_url" ∧ p.imageUrl.map (·.url) = some url

namespace ContentPart

variable {p : ContentPart} {url : String} (h : p.IsImage url)

include h

theorem encoded?_of_isImage : p.encoded? = dataUri? url := by
  obtain ⟨htype, hurl⟩ := h
  obtain ⟨image, himage, rfl⟩ := Option.map_eq_some_iff.mp hurl
  rw [encoded?, htype, himage]
  rfl

theorem fields_of_reference (hurl : ∀ mimeType encoded, ¬IsDataUri url mimeType encoded)
    : p.fields = { file := some ⟨none, some url⟩ } := by
  rw [fields, extract, encoded?_of_isImage h, dataUri?_eq_none_iff.mpr hurl]
  obtain ⟨htype, hurl⟩ := h
  obtain ⟨image, himage, rfl⟩ := Option.map_eq_some_iff.mp hurl
  rw [htype, himage]
  rfl

theorem fields_of_isDataUri {mimeType encoded : String} (hurl : IsDataUri url mimeType encoded)
    : p.fields = (blobExtract mimeType encoded).fields := by
  rw [fields, extract, encoded?_of_isImage h, dataUri?_eq_some_iff.mpr hurl]

theorem fields_of_isUnreadable (hurl : IsUnreadable url) : p.fields = {} := by
  obtain ⟨mimeType, encoded, hurl, hnone⟩ := hurl
  rw [fields_of_isDataUri h hurl, blobExtract_of_not_isEncodingOf hnone]

end ContentPart

/-- A message is made from the fields of its content parts and, if it is a tool's, their texts. -/
theorem toMessage_turn_congr (m : Message) {ps qs : List ContentPart}
    (hfields : ps.map ContentPart.fields = qs.map ContentPart.fields)
    (htexts : ps.filterMap (·.text) = qs.filterMap (·.text))
    : { m with content := some (.parts ps) }.turn.toMessage
        =
      { m with content := some (.parts qs) }.turn.toMessage := by
  have hplain : (Content.parts ps).plainText = (Content.parts qs).plainText := by
    rw [Content.plainText, Content.plainText, htexts]
  have hcontent : (Content.parts ps).extracts.map (·.fields)
      = (Content.parts qs).extracts.map (·.fields) := by
    unfold Content.extracts
    rw [List.map_map, List.map_map]
    exact hfields
  unfold Message.turn Chat.Turn.toMessage Chat.Turn.ofExtracts
  cases OpenAi.roleOf m.role with
  | tool => simp only [Option.map_some, hplain]
  | _ => simp only [Option.map_some, Option.getD_some, List.map_append, hcontent]

/--
An image is data if and only if its URL is a data URI of base64 text, and this in one way only. Any
other URL is kept as a reference to a file. Text that stands for bytes makes a blob of them, and of
any other text nothing is kept: whichever such URL stands there, the message is the same.
-/
theorem data_uris_are_recognized_exactly {p : ContentPart} {url : String} (h : p.IsImage url)
    : (∀ mimeType mimeType' encoded encoded', IsDataUri url mimeType encoded →
        IsDataUri url mimeType' encoded' → mimeType = mimeType' ∧ encoded = encoded')
        ∧
      ((∀ mimeType encoded, ¬IsDataUri url mimeType encoded) →
        p.fields = { file := some ⟨none, some url⟩ } ∧
        ∀ i, p.fields.toPart i = .fileReference "" url)
        ∧
      (∀ mimeType encoded bytes, IsDataUri url mimeType encoded →
        Base64.IsEncodingOf encoded.toList bytes →
        p.fields = { blob := some ⟨some mimeType, bytes⟩ } ∧
        ∀ i, p.fields.toPart i = .blob mimeType bytes)
        ∧
      (IsUnreadable url →
        p.fields = {} ∧
        (∀ i, p.fields.toPart i = .unknown) ∧
        ∀ url' detail, IsUnreadable url' → ∀ (m : Message) before after,
          let q := { p with imageUrl := some ⟨url', detail⟩ }
          { m with content := some (.parts (before ++ p :: after)) }.turn.toMessage
            = { m with content := some (.parts (before ++ q :: after)) }.turn.toMessage)
        ∧
      ∀ mimeType bytes, ',' ∉ mimeType.toList →
        url = "data:" ++ mimeType ++ ";base64," ++ .ofList (Base64.encode bytes) →
        ∀ i, p.fields.toPart i = .blob mimeType bytes := by
  have hblob : ∀ mimeType encoded bytes, IsDataUri url mimeType encoded →
      Base64.IsEncodingOf encoded.toList bytes →
      p.fields = { blob := some ⟨some mimeType, bytes⟩ } ∧
      ∀ i, p.fields.toPart i = .blob mimeType bytes := by
    intro mimeType encoded bytes hurl hbytes
    rw [ContentPart.fields_of_isDataUri h hurl, blobExtract_of_isEncodingOf hbytes]
    exact ⟨rfl, fun i => rfl⟩
  refine ⟨?_, ?_, hblob, ?_, ?_⟩
  . intro mimeType mimeType' encoded encoded' hurl hurl'
    exact hurl.unique hurl'
  . intro hurl
    rw [ContentPart.fields_of_reference h hurl]
    exact ⟨rfl, fun i => rfl⟩
  . intro hurl
    have hfields := ContentPart.fields_of_isUnreadable h hurl
    refine ⟨hfields, ?_, ?_⟩
    . intro i
      rw [hfields]
      rfl
    . intro url' detail hurl' m before after q
      have hq : q.IsImage url' := ⟨h.1, rfl⟩
      apply toMessage_turn_congr
      . simp [hfields, ContentPart.fields_of_isUnreadable hq hurl']
      . simp [q, List.filterMap_cons]
  . intro mimeType bytes hcomma hurl
    refine (hblob mimeType _ bytes ⟨hcomma, hurl⟩ ?_).2
    rw [String.toList_ofList]
    exact Base64.isEncodingOf_encode bytes

/-- Of what ends in `;base64` twice, the MIME type has one; behind a comma it is no ending. -/
theorem data_uris_are_recognized_exactly_by_their_first_comma
    : let image (url : String) : ContentPart := ⟨some "image_url", none, some ⟨url, none⟩, none⟩
      let data := "data:;base64;base64,AQID"
      let other := "data:a,b;base64,AQID"
      let unreadable := "data:image/png;base64,AQI"
      (image data).fields.toPart 0 = .blob ";base64" [1, 2, 3] ∧
      (image other).fields.toPart 0 = .fileReference "" other ∧
      (image unreadable).fields.toPart 0 = .unknown := by
  intro image data other unreadable
  have himage : ∀ url, (image url).IsImage url := fun url => ⟨rfl, rfl⟩
  obtain ⟨-, -, hblob, -, -⟩ := data_uris_are_recognized_exactly (himage data)
  obtain ⟨-, hother, -, -, -⟩ := data_uris_are_recognized_exactly (himage other)
  obtain ⟨-, -, -, hunreadable, -⟩ := data_uris_are_recognized_exactly (himage unreadable)
  have hbytes : Base64.IsEncodingOf "AQID".toList [1, 2, 3] :=
    Base64.decode?_eq_some_iff.mp (by decide)
  have hnone : ∀ bytes, ¬Base64.IsEncodingOf "AQI".toList bytes :=
    Base64.decode?_eq_none_iff.mp (by decide)
  refine ⟨?_, ?_, ?_⟩
  . exact (hblob ";base64" "AQID" [1, 2, 3] ⟨by decide, rfl⟩ hbytes).2 0
  . exact (hother (dataUri?_eq_none_iff.mp (by decide))).2 0
  . exact (hunreadable ⟨"image/png", "AQI", ⟨by decide, rfl⟩, hnone⟩).2.1 0

end ChatTelemetry.Payload.OpenAi
