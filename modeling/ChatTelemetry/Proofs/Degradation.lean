import ChatTelemetry.Proofs.ImageUrl
import ChatTelemetry.Proofs.Precedence

/-!
This module shows that nothing gets lost in silence: the log of a message has an event for every
text that stands for no bytes, with what the decoder says of this text, and then one for every part
of which nothing is kept, in their order.
-/

namespace ChatTelemetry

open Chat (Extract PartFields Turn inputLog)

namespace Chat

/-! ### Findings and their places -/

/-- What `f` finds in items, each with the position of its item. -/
def found (f : ι → Option β) (items : List ι) : List (Nat × β) :=
  items.zipIdx.filterMap fun p => (f p.1).map fun b => (p.2, b)

section

variable {f : ι → Option β} {items : List ι}

theorem mem_found_iff {i : Nat} {b : β}
    : (i, b) ∈ found f items ↔ ∃ item, items[i]? = some item ∧ f item = some b := by
  unfold found
  rw [List.mem_filterMap]
  constructor
  . rintro ⟨p, hp, hfound⟩
    obtain ⟨b', hb, heq⟩ := Option.map_eq_some_iff.mp hfound
    cases heq
    exact ⟨p.1, List.mem_zipIdx_iff_getElem?.mp hp, hb⟩
  . rintro ⟨item, hitem, hb⟩
    refine ⟨(item, i), List.mem_zipIdx_iff_getElem?.mpr hitem, ?_⟩
    rw [hb]
    rfl

theorem ascending_found : (found f items).Pairwise fun a b => a.1 < b.1 := by
  have hpositions : items.zipIdx.Pairwise fun p q => p.2 < q.2 := by
    rw [← List.pairwise_map, List.zipIdx_map_snd]
    exact List.pairwise_lt_range'
  refine hpositions.filterMap _ ?_
  intro p q hpq a ha b hb
  obtain ⟨_, _, rfl⟩ := Option.map_eq_some_iff.mp ha
  obtain ⟨_, _, rfl⟩ := Option.map_eq_some_iff.mp hb
  exact hpq

theorem map_snd_found : (found f items).map Prod.snd = items.filterMap f := by
  unfold found
  nth_rewrite 2 [← List.zipIdx_map_fst 0 items]
  rw [List.map_filterMap, List.filterMap_map]
  congr 1
  funext p
  simp [Function.comp_def]

end

/-! ### Losses -/

/--
What a message has lost: texts in base64 that stand for no bytes and parts of which nothing is kept,
by their positions.
-/
structure Losses where
  unreadable : List (Nat × String)
  unknown : List Nat

namespace Losses

/-- What the decoder says of a text is its own matter: `decodeFault`. -/
def unreadableEvent (decodeFault : String → String) (text : String) : Log.Event :=
  ⟨.warn, Turn.logTarget, "failed to decode base64 content part",
    [("error", .shown (decodeFault text))]⟩

def unknownEvent (position : Nat) : Log.Event :=
  ⟨.info, Turn.logTarget, "unknown message part recorded without content",
    [("index", .count position)]⟩

def log (decodeFault : String → String) (l : Losses) : List Log.Event :=
  l.unreadable.map (fun loss => unreadableEvent decodeFault loss.2) ++ l.unknown.map unknownEvent

/-- These are the losses of a message with these items, each once and in order. -/
structure AreOf (l : Losses) (holds : ι → String → Prop) (items : List ι) (m : Message) : Prop where
  unreadable_ascending : l.unreadable.Pairwise fun a b => a.1 < b.1
  mem_unreadable_iff (i : Nat) (text : String)
    : (i, text) ∈ l.unreadable ↔ ∃ item, items[i]? = some item ∧ holds item text ∧
        ∀ bytes, ¬Base64.IsEncodingOf text.toList bytes
  unknown_ascending : l.unknown.Pairwise (· < ·)
  mem_unknown_iff (i : Nat) : i ∈ l.unknown ↔ m.parts[i]? = some .unknown

end Losses

/--
The log of messages names the losses of each, one message after the other, whatever the decoder says
of a text.
-/
def LogsLosses (turn : ρ → Turn) (items : ρ → List ι) (holds : ι → String → Prop) : Prop :=
  ∃ losses : ρ → Losses,
    (∀ r, (losses r).AreOf holds (items r) (turn r).toMessage) ∧
    ∀ (decodeFault : String → String) (raw : List ρ),
      inputLog decodeFault (raw.map turn) = raw.flatMap fun r => (losses r).log decodeFault

/-! ### Unknown parts -/

def Turn.unknownPositions (t : Turn) : List Nat :=
  (found (fun f => if f.isEmpty then some () else none) t.parts).map Prod.fst

theorem Turn.unknownParts_eq (t : Turn)
    : t.unknownParts = t.unknownPositions.map Losses.unknownEvent := by
  unfold unknownParts unknownPositions found
  rw [List.map_map, List.map_filterMap]
  congr 1
  funext p
  obtain ⟨f, position⟩ := p
  by_cases hempty : f.isEmpty = true
  . simp [hempty, Losses.unknownEvent]
  . simp [hempty]

theorem Turn.ascending_unknownPositions (t : Turn) : t.unknownPositions.Pairwise (· < ·) :=
  List.pairwise_map.mpr ascending_found

theorem Turn.mem_unknownPositions_iff {t : Turn} {i : Nat}
    : i ∈ t.unknownPositions ↔ t.toMessage.parts[i]? = some .unknown := by
  have hempty : i ∈ t.unknownPositions ↔ ∃ f, t.parts[i]? = some f ∧ f.isEmpty = true := by
    simp [unknownPositions, mem_found_iff]
  rw [hempty, Turn.parts_toMessage_eq_mapIdx, List.getElem?_mapIdx]
  simp [Option.map_eq_some_iff, PartFields.toPart_eq_unknown_iff]

/-! ### Unreadable texts -/

theorem Turn.warnings_eq {t : Turn} {unreadable : List (Nat × String)}
    (h : t.unreadable = unreadable.map Prod.snd) (decodeFault : String → String)
    : t.warnings decodeFault
        =
      unreadable.map fun loss => Losses.unreadableEvent decodeFault loss.2 := by
  rw [warnings, h, List.map_map]
  rfl

/-- It is enough to know of each item alone which text on it cannot be read. -/
theorem logsLosses_of_extract {turn : ρ → Turn} {items : ρ → List ι} {holds : ι → String → Prop}
    {role : ρ → Role} {extract : ι → Extract}
    (hturn : ∀ r, turn r = .ofExtracts (role r) ((items r).map extract))
    (hextract : ∀ item text, (extract item).unreadable = some text ↔
      holds item text ∧ ∀ bytes, ¬Base64.IsEncodingOf text.toList bytes)
    : LogsLosses turn items holds := by
  refine ⟨fun r => ⟨found (fun item => (extract item).unreadable) (items r),
    (turn r).unknownPositions⟩, ?_, ?_⟩
  . intro r
    constructor
    . dsimp only
      exact ascending_found
    . intro i text
      dsimp only
      rw [mem_found_iff]
      simp only [hextract]
    . exact (turn r).ascending_unknownPositions
    . intro i
      exact Turn.mem_unknownPositions_iff
  . intro decodeFault raw
    have hunreadable (r : ρ) : (turn r).unreadable
        = (found (fun item => (extract item).unreadable) (items r)).map Prod.snd := by
      rw [map_snd_found, hturn, Turn.ofExtracts, List.filterMap_map]
      rfl
    unfold inputLog
    rw [List.flatMap_map]
    congr 1
    funext r
    rw [Turn.log, Turn.unknownParts_eq, Turn.warnings_eq (hunreadable r)]
    rfl

end Chat

namespace Payload

open Chat (Losses LogsLosses logsLosses_of_extract)

namespace Google

/-- The part has inline data with this text, whatever else is on it. -/
def Part.Holds (p : Part) (text : String) : Prop :=
  ∃ b, p.inlineData = some b ∧ b.data = some text

theorem Blob.read_eq_error_iff {b : Blob} {text : String}
    : b.read = .error text ↔
        b.data = some text ∧ ∀ bytes, ¬Base64.IsEncodingOf text.toList bytes := by
  unfold read
  cases b.data with
  | none => simp
  | some encoded =>
    dsimp only
    rw [Base64.read_eq_error_iff, Option.some.injEq]
    constructor
    . rintro ⟨rfl, hnone⟩
      exact ⟨rfl, hnone⟩
    . rintro ⟨rfl, hnone⟩
      exact ⟨rfl, hnone⟩

theorem Part.unreadable_extract_iff (p : Part) (text : String)
    : p.extract.unreadable = some text ↔
        p.Holds text ∧ ∀ bytes, ¬Base64.IsEncodingOf text.toList bytes := by
  have hread : p.extract.unreadable = some text ↔
      ∃ b, p.inlineData = some b ∧ b.read = .error text := by
    unfold extract blob?
    cases p.inlineData with
    | none => simp
    | some b => cases hread : b.read <;> simp [hread, Except.map]
  rw [hread]
  simp only [Blob.read_eq_error_iff, Holds, exists_and_right, ← and_assoc]

end Google

namespace OpenAi

/-- The item is an image whose URL is data with this text, or audio with this text. -/
inductive RawItem.Holds : RawItem → (text : String) → Prop
  | image {p : ContentPart} {url mimeType text : String} (isImage : p.IsImage url)
    (isDataUri : IsDataUri url mimeType text)
    : Holds (.contentPart p) text
  | audio {p : ContentPart} {audio : InputAudio} (type : p.type = some "input_audio")
    (inputAudio : p.inputAudio = some audio)
    : Holds (.contentPart p) audio.data

def RawItem.encoded? : RawItem → Option String
  | contentPart p => p.encoded?.map Prod.snd
  | _ => none

theorem RawItem.encoded?_eq_some_iff (item : RawItem) (text : String)
    : item.encoded? = some text ↔ item.Holds text := by
  constructor
  . intro h
    cases item with
    | contentPart p =>
      obtain ⟨⟨mimeType, _⟩, hencoded, rfl⟩ := Option.map_eq_some_iff.mp h
      unfold ContentPart.encoded? at hencoded
      split at hencoded
      case h_1 htype =>
        obtain ⟨image, himage, hurl⟩ := Option.bind_eq_some_iff.mp hencoded
        have hisImage : p.IsImage image.url := ⟨htype, by rw [himage]; rfl⟩
        exact .image hisImage (dataUri?_eq_some_iff.mp hurl)
      case h_2 htype =>
        obtain ⟨audio, haudio, hpair⟩ := Option.map_eq_some_iff.mp hencoded
        cases hpair
        exact .audio htype haudio
      case h_3 => cases hencoded
    | _ => cases h
  . intro h
    cases h with
    | image isImage isDataUri =>
      rw [encoded?, ContentPart.encoded?_of_isImage isImage, dataUri?_eq_some_iff.mpr isDataUri]
      rfl
    | audio type inputAudio => simp [encoded?, ContentPart.encoded?, type, inputAudio]

theorem unreadable_blobExtract_iff {mimeType encoded text : String}
    : (blobExtract mimeType encoded).unreadable = some text ↔
        encoded = text ∧ ∀ bytes, ¬Base64.IsEncodingOf encoded.toList bytes := by
  rw [← Base64.read_eq_error_iff, blobExtract]
  cases Base64.read encoded <;> simp

theorem ContentPart.unreadable_extract (p : ContentPart)
    : p.extract.unreadable
        =
      p.encoded?.bind fun pair => (blobExtract pair.1 pair.2).unreadable := by
  unfold extract
  cases p.encoded? with
  | some pair => rfl
  | none =>
    dsimp only
    split <;> rfl

theorem RawItem.unreadable_extract_iff (item : RawItem) (text : String)
    : item.extract.unreadable = some text ↔
        item.Holds text ∧ ∀ bytes, ¬Base64.IsEncodingOf text.toList bytes := by
  rw [← encoded?_eq_some_iff]
  cases item with
  | contentPart p =>
    change p.extract.unreadable = _ ↔ p.encoded?.map Prod.snd = _ ∧ _
    rw [ContentPart.unreadable_extract]
    cases p.encoded? with
    | none => simp
    | some pair =>
      rw [Option.bind_some, Option.map_some, Option.some.injEq, unreadable_blobExtract_iff]
      exact and_congr_right fun h => by rw [h]
  | _ => simp [extract, encoded?, ToolCall.extract]

/-- The message of a tool loses nothing. -/
theorem Message.log_of_tool {m : Message} (h : roleOf m.role = .tool)
    (decodeFault : String → String)
    : m.turn.log decodeFault = [] := by
  unfold turn
  rw [h]
  rfl

end OpenAi

/--
Whatever a message loses is logged, once and in order, and nothing else is: first each text in
base64 that stands for no bytes, by what the decoder says of it, then each part of which nothing is
kept, by its position. It does not matter to the texts of the one format what else is on the part;
in the other, only images and audio have such texts, and the message of a tool loses nothing.
-/
theorem every_loss_is_logged_once
    : LogsLosses Google.Content.turn Google.Content.items Google.Part.Holds
        ∧
      LogsLosses OpenAi.Message.turn OpenAi.Message.items OpenAi.RawItem.Holds
        ∧
      ∀ m : OpenAi.Message, m.role = some "tool" ∨ m.role = some "function" →
        ∀ decodeFault, m.turn.log decodeFault = [] := by
  refine ⟨?_, ?_, ?_⟩
  . exact logsLosses_of_extract (fun c => rfl) Google.Part.unreadable_extract_iff
  . exact logsLosses_of_extract OpenAi.Message.turn_eq_ofExtracts
      OpenAi.RawItem.unreadable_extract_iff
  . intro m hm decodeFault
    exact OpenAi.Message.log_of_tool (OpenAi.roleOf_eq_tool_iff.mpr hm) decodeFault

/-- Of two parts one has a text and inline data that cannot be read, and the other has nothing. -/
theorem every_loss_is_logged_once_beside_a_text
    : let text : Google.Part := ⟨some "a", some ⟨none, some "AQI"⟩, none, none, none⟩
      let c : Google.Content := ⟨some "user", some [text, ⟨none, none, none, none, none⟩]⟩
      let m : OpenAi.Message := ⟨some "tool", none, none, none, none⟩
      (∃ l : Losses, (∀ decodeFault, inputLog decodeFault [c.turn] = l.log decodeFault) ∧
        (0, "AQI") ∈ l.unreadable ∧ 0 ∉ l.unknown ∧ 1 ∈ l.unknown) ∧
      ∀ decodeFault, m.turn.log decodeFault = [] := by
  intro text c m
  obtain ⟨⟨losses, hlosses, hlog⟩, -, htool⟩ := every_loss_is_logged_once
  have hnone : ∀ bytes, ¬Base64.IsEncodingOf "AQI".toList bytes :=
    Base64.decode?_eq_none_iff.mp (by decide)
  refine ⟨⟨losses c, ?_, ?_, ?_, ?_⟩, htool m (.inl rfl)⟩
  . intro decodeFault
    have hone := hlog decodeFault [c]
    rwa [List.flatMap_singleton] at hone
  . exact ((hlosses c).mem_unreadable_iff 0 "AQI").mpr ⟨text, rfl, ⟨_, rfl, rfl⟩, hnone⟩
  . rw [(hlosses c).mem_unknown_iff]
    nofun
  . exact ((hlosses c).mem_unknown_iff 1).mpr rfl

end Payload
end ChatTelemetry
