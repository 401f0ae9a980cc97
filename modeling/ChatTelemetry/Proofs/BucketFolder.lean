import ChatTelemetry.Proofs.DestinationUri
import ChatTelemetry.Proofs.ObjectRequest
import ChatTelemetry.Proofs.PathSegments

/-!
This module shows which folder of which bucket a destination stands for: the one that it names if
nothing in the folder needs an escape, else one that is named with the escapes in it.
-/

namespace ChatTelemetry

namespace Url

/-! ### The name of a bucket as a host -/

def isBucketChar (c : Char) : Bool :=
  ('a' ≤ c && c ≤ 'z') || ('0' ≤ c && c ≤ '9') || c == '-'

variable {bucket : List Char} {c : Char}

theorem toNat_of_isBucketChar (h : isBucketChar c = true) : 0x2d ≤ c.toNat ∧ c.toNat ≤ 0x7a := by
  unfold isBucketChar at h
  simp only [Bool.or_eq_true, Bool.and_eq_true, decide_eq_true_eq, beq_iff_eq] at h
  rcases h with (⟨hlow, hhigh⟩ | ⟨hlow, hhigh⟩) | rfl
  . exact ⟨Nat.le_trans (by decide) hlow, hhigh⟩
  . exact ⟨Nat.le_trans (by decide) hlow, Nat.le_trans hhigh (by decide)⟩
  . decide

theorem not_endsAuthority_of_isBucketChar (h : isBucketChar c = true)
    : endsAuthority .other c = false := by
  have hslash : c ≠ '/' := Text.ne_of_class h (by decide)
  have hquestion : c ≠ '?' := Text.ne_of_class h (by decide)
  have hhash : c ≠ '#' := Text.ne_of_class h (by decide)
  simp [endsAuthority, isSlash, SchemeKind.isSpecial, hslash, hquestion, hhash]

theorem hostText_append_slash (h : ∀ c ∈ bucket, isBucketChar c = true) (rest : List Char)
    : hostText .other false (bucket ++ '/' :: rest) = (bucket, '/' :: rest) := by
  induction bucket with
  | nil => rfl
  | cons c bucket ih =>
    obtain ⟨hc, hbucket⟩ := List.forall_mem_cons.mp h
    have hcolon : c ≠ ':' := Text.ne_of_class hc (by decide)
    have hopening : (c == '[') = false := beq_false_of_ne (Text.ne_of_class hc (by decide))
    rw [List.cons_append, hostText, not_endsAuthority_of_isBucketChar hc, hopening]
    simp [hcolon, ih hbucket]

theorem plainHost_of_isBucketChar (h : ∀ c ∈ bucket, isBucketChar c = true)
    : plainHost bucket = .ok (.domain bucket) := by
  have hforbidden : bucket.any isForbiddenInHost = false := by
    rw [List.any_eq_false]
    intro c hc hforbidden
    have hmark : c ∈ "\x00\t\n\r #/:<>?@[\\]^|".toList := by
      simpa [isForbiddenInHost, or_assoc] using hforbidden
    have hmarks : ∀ d ∈ "\x00\t\n\r #/:<>?@[\\]^|".toList, (!isBucketChar d) = true :=
      List.all_eq_true.mp (by decide)
    exact Text.ne_of_class (h c hc) (by simpa using hmarks c hmark) rfl
  have hself : Text.percentEncode isControl bucket = bucket := by
    rw [Text.percentEncode_eq_self_iff]
    intro c hc
    obtain ⟨hlow, hhigh⟩ := toNat_of_isBucketChar (h c hc)
    refine ⟨by omega, ?_⟩
    simp only [isControl, Bool.or_eq_false_iff, decide_eq_false_iff_not, beq_eq_false_iff_ne]
    omega
  unfold plainHost
  split
  next rest =>
    exact absurd (h '[' List.mem_cons_self) (by decide)
  next => rw [hforbidden, hself, if_neg Bool.false_ne_true]

theorem userinfo_append_slash (h : ∀ c ∈ bucket, isBucketChar c = true) (rest : List Char)
    : userinfo .other (bucket ++ '/' :: rest) = .ok ([], [], bucket ++ '/' :: rest) := by
  have hnone : userinfoText? .other (bucket ++ '/' :: rest) = none := by
    have htake : (bucket ++ '/' :: rest).takeWhile (fun c => !endsAuthority .other c) = bucket := by
      rw [List.takeWhile_append_of_pos, List.takeWhile_cons_of_neg (by decide), List.append_nil]
      intro c hc
      rw [not_endsAuthority_of_isBucketChar (h c hc)]
      rfl
    have hat : '@' ∉ bucket := fun hmem => absurd (h '@' hmem) (by decide)
    unfold userinfoText?
    rw [htake]
    simp [hat]
  unfold userinfo
  rw [hnone]

theorem readAuthority_append_slash (hne : bucket ≠ []) (h : ∀ c ∈ bucket, isBucketChar c = true)
    (rest : List Char)
    : readAuthority "gs".toList (bucket ++ '/' :: rest)
        =
      .ok ({ host := some (.domain bucket) }, '/' :: rest) := by
  have hkind : SchemeKind.ofScheme "gs".toList = .other := by decide
  unfold readAuthority
  rw [hkind]
  simp [userinfo_append_slash h, hostText_append_slash h, plainHost_of_isBucketChar h, hne, bind,
    Except.bind]

theorem otherUrl_append_slash (hne : bucket ≠ []) (h : ∀ c ∈ bucket, isBucketChar c = true)
    (rest : List Char)
    : otherUrl "gs".toList ('/' :: '/' :: (bucket ++ '/' :: rest))
        =
      .ok (withRest "gs".toList (some { host := some (.domain bucket) }) [] ('/' :: rest)) := by
  simp only [otherUrl, readAuthority_append_slash hne h rest]
  rfl

end Url

namespace Storage

open Bucket (isHeaderText)

/-! ### Folders -/

def isFolderChar (c : Char) : Bool :=
  0x80 ≤ c.toNat || ('a' ≤ c && c ≤ 'z') || ('A' ≤ c && c ≤ 'Z') || ('0' ≤ c && c ≤ '9') ||
    c == '-' || c == '_' || c == ' '

/-- A segment of letters, digits, dashes and blanks that does not end in a blank. -/
structure IsFolderSegment (segment : List Char) : Prop where
  ne_nil : segment ≠ []
  chars : ∀ c ∈ segment, isFolderChar c = true
  last : ∀ c ∈ segment.getLast?, Text.isBlank c = false

variable {segment : List Char} {segments : List (List Char)} {c : Char}

theorem le_of_isFolderChar (h : isFolderChar c = true) : 0x20 ≤ c.toNat ∧ c.toNat ≠ 0x7f := by
  unfold isFolderChar at h
  simp only [Bool.or_eq_true, Bool.and_eq_true, decide_eq_true_eq, beq_iff_eq] at h
  rcases h with (((((h | ⟨hlow, hhigh⟩) | ⟨hlow, hhigh⟩) | ⟨hlow, hhigh⟩) | rfl) | rfl) | rfl
  . omega
  . exact ⟨Nat.le_trans (by decide) hlow, Nat.ne_of_lt (Nat.lt_of_le_of_lt hhigh (by decide))⟩
  . exact ⟨Nat.le_trans (by decide) hlow, Nat.ne_of_lt (Nat.lt_of_le_of_lt hhigh (by decide))⟩
  . exact ⟨Nat.le_trans (by decide) hlow, Nat.ne_of_lt (Nat.lt_of_le_of_lt hhigh (by decide))⟩
  . decide
  . decide
  . decide

/-- Of all the characters in folders, the blank alone is escaped though it is ASCII. -/
theorem escapedInPath_iff (h : isFolderChar c = true ∨ c = '/')
    : Url.escapedInPath c = true ↔ c = ' ' := by
  constructor
  . intro hescaped
    have hmarks : ∀ d ∈ "\"<>\x60#?\x7b\x7d".toList, (!isFolderChar d && d != '/') = true :=
      List.all_eq_true.mp (by decide)
    rcases Url.escapedInPath_cases hescaped with hcontrol | hmark
    . rcases h with h | rfl
      . have hlow := le_of_isFolderChar h
        simp only [Url.isControl, Bool.or_eq_true, decide_eq_true_eq, beq_iff_eq] at hcontrol
        omega
      . exact absurd hcontrol (by decide)
    . rcases List.mem_cons.mp hmark with hblank | hother
      . exact hblank
      . obtain ⟨hchar, hslash⟩ : isFolderChar c = false ∧ c ≠ '/' := by
          simpa using hmarks c hother
        rcases h with h | h
        . exact absurd rfl (Text.ne_of_class h hchar)
        . exact absurd h hslash
  . rintro rfl
    rfl

theorem IsFolderSegment.isOrdinary (h : IsFolderSegment segment)
    : Url.IsOrdinary .other segment := by
  have hmark : ∀ {d}, isFolderChar d = false → d ∉ segment :=
    fun hd hmem => Text.ne_of_class (h.chars _ hmem) hd rfl
  have hpercent : '%' ∈ segment → Url.escapedInPath '%' = true :=
    fun hmem => absurd hmem (hmark (by decide))
  constructor
  . exact hmark (by decide)
  . intro hspecial
    contradiction
  . exact hmark (by decide)
  . exact hmark (by decide)
  . rw [Bool.eq_false_iff]
    intro hdot
    obtain rfl := Url.eq_dot_of_isSingleDot hpercent hdot
    exact hmark (by decide) List.mem_cons_self
  . rw [Bool.eq_false_iff]
    intro hdots
    obtain rfl := Url.eq_dots_of_isDoubleDot hpercent hdots
    exact hmark (by decide) List.mem_cons_self
  . intro hkind
    contradiction

/-! ### The folder of a destination -/

theorem Bucket.make_of_strip {name folder : String} {options : Options} (hname : name ≠ "")
    (hservice : options.service.canBeBase = true) {bare : List Char}
    (hbare : Text.strip (· == '/') folder.toList = bare)
    : make name folder options.endpoint options.token
        =
      .ok ⟨options.service, name, .ofList bare, options.token⟩ := by
  unfold make
  rw [if_neg hname, hbare]
  exact if_pos hservice

section Destination

variable (hne : segments ≠ []) (hsegments : ∀ s ∈ segments, IsFolderSegment s)

include hsegments in
theorem ne_nil_of_isFolderSegment : ∀ s ∈ segments, s ≠ [] :=
  fun s hs => (hsegments s hs).ne_nil

include hsegments in
theorem isFolderChar_of_mem_join (h : c ∈ Text.join ['/'] segments)
    : isFolderChar c = true ∨ c = '/' := by
  rcases Text.mem_join h with h | ⟨s, hs, h⟩
  . exact .inr (List.mem_singleton.mp h)
  . exact .inl ((hsegments s hs).chars c h)

include hne hsegments in
theorem otherUrl_of_folder {bucket : List Char} (hbucket : bucket ≠ [])
    (hchars : ∀ c ∈ bucket, Url.isBucketChar c = true)
    : Url.otherUrl "gs".toList ('/' :: '/' :: (bucket ++ '/' :: Text.join ['/'] segments))
        =
      .ok {
        scheme := "gs".toList
        authority := some { host := some (.domain bucket) }
        path := '/' :: Text.percentEncode Url.escapedInPath (Text.join ['/'] segments) } := by
  have hordinary : ∀ s ∈ segments, Url.IsOrdinary (.ofScheme "gs".toList) s :=
    fun s hs => (hsegments s hs).isOrdinary
  rw [Url.otherUrl_append_slash hbucket hchars, Url.withRest_join hne hordinary]

include hne hsegments in
theorem isTight_of_folder {bucket : List Char} (hchars : ∀ c ∈ bucket, Url.isBucketChar c = true)
    : Text.IsTight ("gs://".toList ++ (bucket ++ '/' :: Text.join ['/'] segments)) := by
  have hnotNil := ne_nil_of_isFolderSegment hsegments
  have hscheme : Text.IsTight "gs://".toList := by
    constructor <;> simp [Text.isBlank, Url.isTabOrLineBreak]
  apply hscheme.append (by simp) (by simp)
  . intro c hc
    rw [List.getLast?_append_of_ne_nil _ (List.cons_ne_nil _ _)] at hc
    rw [List.getLast?_cons_of_ne_nil (Text.join_ne_nil hne hnotNil)] at hc
    obtain ⟨s, hs, hc⟩ := Text.mem_getLast?_join hnotNil hc
    have hblank := (hsegments s hs).last c hc
    refine ⟨hblank, ?_⟩
    have hchar := (hsegments s hs).chars c (List.mem_of_mem_getLast? hc)
    apply Nat.lt_of_le_of_ne (le_of_isFolderChar hchar).1
    intro hspace
    obtain rfl : ' ' = c := Char.toNat_inj.mp hspace
    simp [Text.isBlank] at hblank
  . intro c hc
    rcases List.mem_append.mp hc with hc | hc
    . exact Nat.le_trans (by decide) (Url.toNat_of_isBucketChar (hchars c hc)).1
    . rcases List.mem_cons.mp hc with rfl | hc
      . decide
      . rcases isFolderChar_of_mem_join hsegments hc with h | rfl
        . exact (le_of_isFolderChar h).1
        . decide

include hsegments in
theorem strip_folder
    : Text.strip (· == '/')
          ('/' :: Text.percentEncode Url.escapedInPath (Text.join ['/'] segments))
        =
      Text.percentEncode Url.escapedInPath (Text.join ['/'] segments) := by
  have hnotNil := ne_nil_of_isFolderSegment hsegments
  have hslash : ∀ s ∈ segments, '/' ∉ s :=
    fun s hs => (hsegments s hs).isOrdinary.slash_not_mem
  have hstrip := @Text.strip_append (· == '/') ['/'] [] (by simp) (by simp)
    (Text.percentEncode Url.escapedInPath (Text.join ['/'] segments))
  rw [List.append_nil, List.singleton_append] at hstrip
  rw [hstrip]
  apply Text.strip_eq_self
  . intro c hc
    rw [beq_eq_false_iff_ne]
    rintro rfl
    rcases Text.mem_head?_percentEncode hc with hc | hc
    . exact Text.not_mem_head?_join hnotNil hslash hc
    . exact absurd hc (by decide)
  . intro c hc
    rw [beq_eq_false_iff_ne]
    rintro rfl
    rcases Text.mem_getLast?_percentEncode hc with hc | hc
    . exact Text.not_mem_getLast?_join hnotNil hslash hc
    . exact absurd hc (by decide)

include hne hsegments in
/-- The bucket of a destination, with its folder as it is written in a locator. -/
theorem ofDestination_of_folder {bucket : String} (hbucket : bucket ≠ "")
    (hchars : ∀ c ∈ bucket.toList, Url.isBucketChar c = true) {options : Options}
    (hservice : options.service.canBeBase = true)
    : Backend.ofDestination ("gs://" ++ bucket ++ "/" ++ .ofList (Text.join ['/'] segments)) options
        =
      .ok (.bucket ⟨options.service, bucket,
        .ofList (Text.percentEncode Url.escapedInPath (Text.join ['/'] segments)),
        options.token⟩) := by
  have hname : bucket.toList ≠ [] := by
    rwa [Ne, String.toList_eq_nil_iff]
  have htext : "gs://" ++ bucket ++ "/" ++ String.ofList (Text.join ['/'] segments)
      = .ofList ("gs://".toList ++ (bucket.toList ++ '/' :: Text.join ['/'] segments)) := by
    rw [← String.toList_inj]
    simp
  rw [htext, ofDestination_of_gs (isTight_of_folder hne hsegments hchars)
    (otherUrl_of_folder hne hsegments hname hchars)]
  change (Bucket.make (.ofList bucket.toList) (.ofList ('/' :: _)) _ _).map _ = _
  rw [String.ofList_toList, Bucket.make_of_strip hbucket hservice]
  . rfl
  . rw [String.toList_ofList, strip_folder hsegments]

end Destination

/-! ### Where objects are kept -/

/-- Whether all that is kept in a bucket is kept in this folder of it, and located there. -/
def Bucket.KeepsIn (b : Bucket) (folder : String) : Prop :=
  ∀ name v network locator, isObjectName name = true →
    (b.upload name v network).result = .ok locator →
      locator = "gs://" ++ b.name ++ "/" ++ folder ++ "/" ++ name ∧
        ∃ request x, (b.upload name v network).sent = some request ∧
          request.url.query = some ("uploadType=media&name=".toList ++ x) ∧
          (∀ c ∈ x, c ∉ "&=#".toList) ∧
          Text.ofUtf8? (Url.formDecode x) = some (folder ++ "/" ++ name).toList

theorem Bucket.keepsIn_folder {b : Bucket} (h : b.folder ≠ "") : b.KeepsIn b.folder := by
  intro name v network locator _ hresult
  obtain ⟨-, hlocator, hsent⟩ := upload_eq_ok hresult
  have hobject : b.objectText name = b.folder ++ "/" ++ name := if_neg h
  rw [hobject] at hlocator hsent
  refine ⟨?_, _, Url.formEncode (b.folder ++ "/" ++ name).toList, hsent, rfl, ?_, ?_⟩
  . rw [hlocator]
    simp [Bucket.locator, String.append_assoc]
  . exact fun c => Url.not_mark_of_mem_formEncode
  . exact Url.ofUtf8?_formDecode_formEncode _

theorem Bucket.keepsIn_iff {b : Bucket} (h : b.folder ≠ "") {folder : String}
    : b.KeepsIn folder ↔ folder = b.folder ∨ ∃ t ∈ b.token, isHeaderText t = false := by
  constructor
  . intro hkeeps
    rw [or_iff_not_imp_right]
    intro htoken
    have htoken : ∀ t ∈ b.token, isHeaderText t = true := by
      simpa using htoken
    have hname : isObjectName "r.json" = true := by decide
    let network : Network := { answer := fun _ => .ok ⟨200, "", none⟩ }
    have hanswer := (@upload_of_answer b _ hname htoken .null network _ rfl rfl).2
    have hlocator := (hkeeps _ _ _ _ hname hanswer).1
    have hobject : b.objectText "r.json" = b.folder ++ "/" ++ "r.json" := if_neg h
    rw [hobject] at hlocator
    rw [← String.toList_inj] at hlocator ⊢
    simpa [locator] using hlocator.symm
  . rintro (rfl | ⟨t, ht, hheader⟩)
    . exact keepsIn_folder h
    . intro name v network locator _ hresult
      have htoken := (upload_eq_ok hresult).1 t ht
      rw [hheader] at htoken
      contradiction

/--
The folder of a destination is the one that it names exactly if all of it is ASCII without blanks;
else the escapes of its path stay in the names of the objects.
-/
theorem folder_of_destination {bucket : String} (hbucket : bucket ≠ "")
    (hchars : ∀ c ∈ bucket.toList, Url.isBucketChar c = true) (hne : segments ≠ [])
    (hsegments : ∀ s ∈ segments, IsFolderSegment s) {options : Options}
    (hservice : options.service.canBeBase = true)
    : let folder := Text.join ['/'] segments
      ∃ b, Backend.ofDestination ("gs://" ++ bucket ++ "/" ++ .ofList folder) options
            = .ok (.bucket b) ∧
        b.name = bucket ∧
        b.KeepsIn (.ofList (Text.percentEncode Url.escapedInPath folder)) ∧
        (b.KeepsIn (.ofList folder) ↔
          (∀ c ∈ folder, c.toNat < 0x80 ∧ c ≠ ' ') ∨
            ∃ t ∈ options.token, isHeaderText t = false) := by
  intro folder
  have hfolder : folder ≠ [] := Text.join_ne_nil hne (ne_nil_of_isFolderSegment hsegments)
  have hne' : String.ofList (Text.percentEncode Url.escapedInPath folder) ≠ "" := by
    rw [Ne, ← String.toList_eq_nil_iff, String.toList_ofList, ← Ne, ← List.length_pos_iff]
    apply Nat.lt_of_lt_of_le (List.length_pos_iff.mpr hfolder)
    exact Text.length_le_length_percentEncode Url.escapedInPath folder
  refine ⟨_, ofDestination_of_folder hne hsegments hbucket hchars hservice, rfl,
    Bucket.keepsIn_folder hne', (Bucket.keepsIn_iff hne').trans (or_congr_left ?_)⟩
  dsimp only
  rw [String.ofList_inj, eq_comm, Text.percentEncode_eq_self_iff]
  refine forall₂_congr fun c hc => and_congr_right' ?_
  rw [← Bool.not_eq_true, escapedInPath_iff (isFolderChar_of_mem_join hsegments hc)]

theorem folder_of_destination_of_two_segments
    : ∃ b, Backend.ofDestination "gs://traces-1/2024/genai_spans" {} = .ok (.bucket b) ∧
        b.name = "traces-1" ∧ b.KeepsIn "2024/genai_spans" := by
  have hchars : ∀ c ∈ "traces-1".toList, Url.isBucketChar c = true :=
    List.all_eq_true.mp (by decide)
  have hsegments : ∀ s ∈ ["2024".toList, "genai_spans".toList], IsFolderSegment s := by
    rw [List.forall_mem_cons, List.forall_mem_singleton]
    refine ⟨⟨by decide, List.all_eq_true.mp (by decide), ?_⟩,
      ⟨by decide, List.all_eq_true.mp (by decide), ?_⟩⟩
    . simp [Text.isBlank]
    . simp [Text.isBlank]
  have hservice : (Options.service {}).canBeBase = true := rfl
  obtain ⟨b, hb, hname, -, hkeeps⟩ :=
    folder_of_destination (by decide) hchars (by decide) hsegments hservice
  have hascii : ∀ c ∈ "2024/genai_spans".toList, (decide (c.toNat < 0x80) && c != ' ') = true :=
    List.all_eq_true.mp (by decide)
  exact ⟨b, hb, hname, hkeeps.mpr (.inl fun c hc => by simpa using hascii c hc)⟩

/-- A letter beyond ASCII gets into the locator as its escapes. -/
theorem folder_of_destination_is_escaped
    : ∃ b, Backend.ofDestination "gs://traces/données" {} = .ok (.bucket b) ∧
        (b.upload "r.json" .null { answer := fun _ => .ok ⟨200, "", none⟩ }).result
          =
        .ok "gs://traces/donn%C3%A9es/r.json" := by
  refine ⟨⟨Bucket.defaultEndpoint, "traces", "donn%C3%A9es", none⟩, ?_, ?_⟩
  . apply Except.toOption_eq_some_iff.mp
    decide +kernel
  . decide +kernel

end Storage
end ChatTelemetry
