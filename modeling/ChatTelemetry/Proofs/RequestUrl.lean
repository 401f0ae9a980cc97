import ChatTelemetry.Proofs.ObjectRequest
import ChatTelemetry.Proofs.PathSegments

/-!
This module shows which objects of which buckets are sent to one and the same URL, and whose bucket
has a segment of its own there.
-/

namespace ChatTelemetry

/-- What stands before the first mark of a text, and what behind it. -/
theorem Text.eq_of_append_cons_eq {mark : Char} {p q x y : List Char} (hp : mark ∉ p)
    (hq : mark ∉ q) (h : p ++ mark :: x = q ++ mark :: y)
    : p = q ∧ x = y := by
  have hbefore : ∀ {s : List Char}, mark ∉ s → ∀ c ∈ s, (c != mark) = true := by
    intro s hs c hc
    rw [bne_iff_ne]
    rintro rfl
    exact hs hc
  have htake := congrArg (List.takeWhile (· != mark)) h
  rw [List.takeWhile_append_of_pos (hbefore hp), List.takeWhile_append_of_pos (hbefore hq)] at htake
  rw [List.takeWhile_cons_of_neg (by simp), List.takeWhile_cons_of_neg (by simp)] at htake
  obtain rfl : p = q := by simpa using htake
  exact ⟨rfl, by simpa using h⟩

namespace Url

/-! ### A segment between two others -/

/--
What a segment comes to in a path: nothing at all if it is dots, else its text without tabs and line
breaks, of which a lone dot counts as nothing.
-/
def reading? (segment : List Char) : Option (List Char) :=
  if segment = ['.'] ∨ segment = ['.', '.'] then none
  else
    let written := segment.filter fun c => !isTabOrLineBreak c
    some (if written = ['.'] then [] else written)

/-- What stands behind the slash before `last` once a segment of this reading has been added. -/
def behind (last : List Char) : Option (List Char) → List Char
  | none => last
  | some s =>
    if s = ['.', '.'] then [] else last ++ '/' :: Text.percentEncode (escapedInSegment true) s

variable {u : Url} {front last after segment : List Char}

theorem reading?_eq_self_iff
    : reading? segment = some segment ↔
        (∀ c ∈ segment, isTabOrLineBreak c = false) ∧ segment ≠ ['.'] ∧ segment ≠ ['.', '.'] := by
  unfold reading?
  split
  next h =>
    constructor
    . intro h
      contradiction
    . rintro ⟨_, hdot, hdots⟩
      rcases h with h | h
      . exact absurd h hdot
      . exact absurd h hdots
  next h =>
    obtain ⟨hdot, hdots⟩ := not_or.mp h
    dsimp only
    rw [Option.some.injEq]
    split
    next hwritten =>
      constructor
      . rintro rfl
        contradiction
      . rintro ⟨hkept, _⟩
        have hself : (segment.filter fun c => !isTabOrLineBreak c) = segment := by
          rw [List.filter_eq_self]
          simpa using hkept
        exact absurd (hself.symm.trans hwritten) hdot
    next =>
      rw [List.filter_eq_self]
      simp [hdot, hdots]

theorem isSingleDot_writtenSegment
    : isSingleDot (writtenSegment .web segment) = true ↔
        (segment.filter fun c => !isTabOrLineBreak c) = ['.'] := by
  constructor
  . exact eq_dot_of_isSingleDot fun _ => rfl
  . intro h
    unfold writtenSegment
    rw [h]
    rfl

theorem isDoubleDot_writtenSegment
    : isDoubleDot (writtenSegment .web segment) = true ↔
        (segment.filter fun c => !isTabOrLineBreak c) = ['.', '.'] := by
  constructor
  . exact eq_dots_of_isDoubleDot fun _ => rfl
  . intro h
    unfold writtenSegment
    rw [h]
    rfl

theorem opened_concat (h : front ≠ []) : opened (front ++ ['/']) = front ++ ['/'] ++ ['/'] := by
  unfold opened
  rw [if_neg]
  simp [h]

/-- What follows the first segments of a path when one of any text and a plain one are added. -/
theorem path_addSegment_addSegment (hkind : SchemeKind.ofScheme u.scheme = .web)
    (hpath : u.path = front ++ '/' :: last) (hfront : front ≠ []) (hlast : IsPlain last)
    (hafter : IsPlain after)
    : ((u.addSegment segment).addSegment after).path
        =
      front ++ '/' :: (behind last (reading? segment) ++ '/' :: after) := by
  have hkind' : SchemeKind.ofScheme (u.addSegment segment).scheme = .web := by
    rw [scheme_addSegment]
    exact hkind
  rw [path_addSegment_of_isPlain hkind' hafter]
  unfold reading?
  split
  next hdots =>
    rw [addSegment_of_dots u hdots, hpath, opened_append hlast.ne_nil]
    simp [behind]
  next hdots =>
    rw [path_addSegment hkind (not_or.mp hdots), hpath, opened_append hlast.ne_nil]
    have hopened : opened (front ++ '/' :: last ++ ['/']) = front ++ '/' :: last ++ ['/', '/'] := by
      rw [opened_concat (by simp), List.append_assoc]
      rfl
    dsimp only
    split
    next hdouble =>
      rw [isDoubleDot_writtenSegment] at hdouble
      rw [withoutLastSlash_append hlast.slash_not_mem hlast.not_drive]
      rw [withoutLastSegment_append hlast.slash_not_mem, opened_concat hfront]
      simp [behind, hdouble]
    next hdouble =>
      rw [isDoubleDot_writtenSegment] at hdouble
      split
      next hsingle =>
        rw [isSingleDot_writtenSegment] at hsingle
        rw [withSlash_append, hopened]
        simp [behind, hsingle, Text.percentEncode]
      next hsingle =>
        rw [isSingleDot_writtenSegment] at hsingle
        have hjoined : front ++ '/' :: last ++ ['/'] ++ writtenSegment .web segment
            = front ++ '/' :: (last ++ '/' :: writtenSegment .web segment) := by
          simp
        rw [hjoined, opened_append (List.append_ne_nil_of_left_ne_nil hlast.ne_nil _)]
        rw [if_neg hsingle]
        simp [behind, hdouble, writtenSegment, SchemeKind.isSpecial]

/-! ### What adding segments leaves as it was -/

theorem addSegment_eq (u : Url) (segment : List Char)
    : u.addSegment segment = { u with path := (u.addSegment segment).path } := by
  unfold addSegment
  split <;> rfl

theorem foldl_addSegment_eq (u : Url) (segments : List (List Char))
    : segments.foldl addSegment u = { u with path := (segments.foldl addSegment u).path } := by
  induction segments generalizing u with
  | nil => rfl
  | cons segment segments ih =>
    rw [List.foldl_cons, ih (u.addSegment segment)]
    rw [addSegment_eq u segment]

theorem addSegments_eq (u : Url) (segments : List (List Char))
    : u.addSegments segments = { u with path := (u.addSegments segments).path } := by
  unfold addSegments
  dsimp only
  rw [foldl_addSegment_eq]

theorem addSegments_append (u : Url) (before after : List (List Char))
    : u.addSegments (before ++ after) = after.foldl addSegment (u.addSegments before) := by
  unfold addSegments
  exact List.foldl_append

/-! ### The text of a locator with a query -/

theorem not_mem_percentEncode_segment {mark : Char} (h : mark = '/' ∨ mark = '?') (s : List Char)
    : mark ∉ Text.percentEncode (escapedInSegment true) s := by
  intro hmem
  rcases Text.mem_percentEncode hmem with ⟨_, _, hstays⟩ | hmem
  . rcases h with rfl | rfl
    . exact absurd hstays (by decide)
    . exact absurd hstays (by decide)
  . rcases h with rfl | rfl
    . exact absurd hmem (by decide)
    . exact absurd hmem (by decide)

theorem eq_of_append_slash_eq {s t before : List Char} (hs : '/' ∉ s) (ht : '/' ∉ t)
    (h : before ++ '/' :: s = front ++ '/' :: t)
    : s = t := by
  have hlast := congrArg lastSegmentReversed h
  rw [lastSegmentReversed_append hs, lastSegmentReversed_append ht] at hlast
  exact List.reverse_injective hlast

theorem question_not_mem_behind (hlast : '?' ∉ last) (reading : Option (List Char))
    : '?' ∉ behind last reading := by
  cases reading with
  | none => exact hlast
  | some s =>
    unfold behind
    dsimp only
    split
    next => exact List.not_mem_nil
    next =>
      intro h
      rw [List.mem_append, List.mem_cons] at h
      rcases h with h | h | h
      . exact hlast h
      . contradiction
      . exact not_mem_percentEncode_segment (.inr rfl) s h

theorem behind_injective (hlast : last ≠ []) {r₁ r₂ : Option (List Char)}
    (h : behind last r₁ = behind last r₂)
    : r₁ = r₂ := by
  -- What is behind the slash is empty, the last segment alone, or longer than that.
  have hlonger : ∀ s, last ≠ last ++ '/' :: Text.percentEncode (escapedInSegment true) s := by
    intro s h
    have := congrArg List.length h
    simp at this
  match r₁, r₂ with
  | none, none => rfl
  | none, some s =>
    simp only [behind] at h
    split at h
    next => exact absurd h hlast
    next => exact absurd h (hlonger s)
  | some s, none =>
    simp only [behind] at h
    split at h
    next => exact absurd h.symm hlast
    next => exact absurd h.symm (hlonger s)
  | some s, some t =>
    simp only [behind] at h
    split at h
    next hs =>
      split at h
      next ht => rw [hs, ht]
      next => exact absurd h (by simp)
    next =>
      split at h
      next => exact absurd h (by simp)
      next =>
        have h := (List.cons_inj_right '/').mp (List.append_cancel_left h)
        rw [Text.percentEncode_injective rfl h]

theorem beforePath_eq (u : Url) (hfront : front ≠ []) (p q : List Char) (x y : Option (List Char))
    : ({ u with path := front ++ '/' :: p, query := x } : Url).beforePath
        =
      ({ u with path := front ++ '/' :: q, query := y } : Url).beforePath := by
  have hmark : ∀ p, ['/', '/'].isPrefixOf (front ++ '/' :: p)
      = ['/', '/'].isPrefixOf (front ++ ['/']) := by
    intro p
    match front with
    | [] => exact absurd rfl hfront
    | [c] => rfl
    | c :: d :: rest => rfl
  unfold beforePath
  dsimp only
  rw [hmark p, hmark q]

/-- A path without a question mark and the query behind it are told apart in the text. -/
theorem text_eq_iff {u : Url} {p q x y : List Char} (hfront : front ≠ []) (hp : '?' ∉ p)
    (hq : '?' ∉ q)
    : ({ u with path := front ++ '/' :: p, query := some x } : Url).text
          = ({ u with path := front ++ '/' :: q, query := some y } : Url).text
        ↔
      p = q ∧ x = y := by
  constructor
  . intro h
    have hchars := String.ofList_injective h
    unfold chars targetChars markedChars at hchars
    rw [beforePath_eq u hfront p q (some x) (some y)] at hchars
    simp only [List.append_assoc, List.append_cancel_left_eq, List.cons_append, List.cons.injEq,
      true_and] at hchars
    have hsplit := Text.eq_of_append_cons_eq hp hq hchars
    exact ⟨hsplit.1, List.append_cancel_right hsplit.2⟩
  . rintro ⟨rfl, rfl⟩
    rfl

end Url

namespace Storage.Bucket

open Url (reading? behind)

/-! ### The URLs of objects -/

/-- Whether a bucket has a segment of its own, between `b` and `o`, in a path. -/
def HasOwnSegment (name : String) (path : List Char) : Prop :=
  ∃ front segment, path = front ++ "/b/".toList ++ segment ++ "/o".toList ∧ '/' ∉ segment ∧
    Text.ofUtf8? (Text.percentDecode segment) = some name.toList

/-- Within a service, the path of an object depends on what the name of its bucket comes to. -/
theorem exists_path_uploadUrl {endpoint : Url}
    (hkind : Url.SchemeKind.ofScheme endpoint.scheme = .web)
    : ∃ front, front ≠ [] ∧ ∀ name folder token object,
        (Bucket.uploadUrl ⟨endpoint, name, folder, token⟩ object)
          =
        { endpoint with
          path := front ++ '/' :: (behind ['b'] (reading? name.toList) ++ ['/', 'o']),
          query := some ("uploadType=media&name=".toList ++ Url.formEncode object.toList) } := by
  let storage := endpoint.addSegments ["upload".toList, "storage".toList]
  let version := storage.addSegment "v1".toList
  have hstorage : Url.SchemeKind.ofScheme storage.scheme = .web := by
    unfold storage
    rw [Url.addSegments_eq]
    exact hkind
  have hversion : Url.SchemeKind.ofScheme version.scheme = .web := by
    unfold version
    rw [Url.scheme_addSegment]
    exact hstorage
  have hb : Url.SchemeKind.ofScheme (version.addSegment ['b']).scheme = .web := by
    rw [Url.scheme_addSegment]
    exact hversion
  have hv1 : Url.IsPlain "v1".toList := by decide
  have hplain : Url.IsPlain ['b'] := by decide
  obtain ⟨before, -, hbefore⟩ := Url.exists_path_addSegment hstorage hv1
  obtain ⟨front, hprefix, hfront⟩ := Url.exists_path_addSegment hversion hplain
  have hne : front ≠ [] := by
    rintro rfl
    have hlength := hprefix.length_le
    unfold version at hlength
    rw [hbefore] at hlength
    simp at hlength
  refine ⟨front, hne, ?_⟩
  intro name folder token object
  have hpath : (((version.addSegment ['b']).addSegment name.toList).addSegment ['o']).path
      = front ++ '/' :: (behind ['b'] (reading? name.toList) ++ ['/', 'o']) :=
    Url.path_addSegment_addSegment hb hfront hne hplain (by decide)
  have hsegments : ["upload", "storage", "v1", "b", name, "o"].map String.toList
      = ["upload".toList, "storage".toList] ++ ["v1".toList, ['b'], name.toList, ['o']] := by
    rfl
  unfold uploadUrl
  dsimp only
  rw [Url.addSegments_eq endpoint, hsegments, Url.addSegments_append, ← hpath]
  rfl

theorem name_ne_of_make {name folder : String} {endpoint : Option Url} {token : Option String}
    {b : Bucket} (h : make name folder endpoint token = .ok b)
    : name ≠ "" := by
  rintro rfl
  contradiction

theorem hasOwnSegment_iff {name : String} (hname : name ≠ "") (front : List Char)
    : HasOwnSegment name (front ++ '/' :: (behind ['b'] (reading? name.toList) ++ ['/', 'o'])) ↔
        reading? name.toList = some name.toList := by
  constructor
  . rintro ⟨before, segment, hpath, hslash, hsegment⟩
    have hpath : front ++ '/' :: behind ['b'] (reading? name.toList)
        = before ++ "/b".toList ++ '/' :: segment := by
      refine List.append_cancel_right (?_ : _ ++ "/o".toList = _)
      simpa using hpath
    cases hreading : reading? name.toList with
    | none =>
      rw [hreading] at hpath
      obtain rfl : ['b'] = segment := Url.eq_of_append_slash_eq (by decide) hslash hpath
      have hb : name.toList = ['b'] := (Option.some.inj hsegment).symm
      rw [hb] at hreading
      exact absurd hreading (by decide)
    | some s =>
      rw [hreading] at hpath
      unfold behind at hpath
      dsimp only at hpath
      split at hpath
      next =>
        obtain rfl : [] = segment := Url.eq_of_append_slash_eq List.not_mem_nil hslash hpath
        have hempty : name.toList = [] := (Option.some.inj hsegment).symm
        exact absurd (String.toList_eq_nil_iff.mp hempty) hname
      next =>
        have hslash' := Url.not_mem_percentEncode_segment (.inl rfl) s
        have hpath : front ++ "/b".toList ++ '/' :: Text.percentEncode (Url.escapedInSegment true) s
            = before ++ "/b".toList ++ '/' :: segment := by
          simpa using hpath
        obtain rfl := Url.eq_of_append_slash_eq hslash' hslash hpath
        rw [Text.percentDecode_percentEncode fun _ => rfl, Text.ofUtf8?_utf8] at hsegment
        exact hsegment
  . intro hreading
    have hdots := (Url.reading?_eq_self_iff.mp hreading).2.2
    refine ⟨front, Text.percentEncode (Url.escapedInSegment true) name.toList, ?_,
      Url.not_mem_percentEncode_segment (.inl rfl) _, ?_⟩
    . rw [hreading]
      simp [behind, hdots]
    . rw [Text.percentDecode_percentEncode fun _ => rfl, Text.ofUtf8?_utf8]

/--
Two objects of a service share a URL exactly if they have one name and the names of their buckets
come to the same, and a bucket has a segment of its own exactly if its name comes to itself.
-/
theorem request_urls_agree_iff {endpoint : Option Url} {name₁ name₂ folder₁ folder₂ : String}
    {token₁ token₂ : Option String} {b₁ b₂ : Bucket}
    (h₁ : make name₁ folder₁ endpoint token₁ = .ok b₁)
    (h₂ : make name₂ folder₂ endpoint token₂ = .ok b₂)
    (hscheme : (endpoint.getD defaultEndpoint).scheme ∈ ["http".toList, "https".toList])
    (object₁ object₂ : String)
    : ((b₁.uploadUrl object₁).text = (b₂.uploadUrl object₂).text ↔
        reading? name₁.toList = reading? name₂.toList ∧ object₁ = object₂) ∧
      (HasOwnSegment name₁ (b₁.uploadUrl object₁).path ↔
        (∀ c ∈ name₁.toList, Url.isTabOrLineBreak c = false) ∧ name₁ ≠ "." ∧ name₁ ≠ "..") := by
  have hkind : ∀ scheme ∈ ["http".toList, "https".toList],
      Url.SchemeKind.ofScheme scheme = .web := by
    decide
  have hname := name_ne_of_make h₁
  obtain ⟨endpoint₁, bucket₁, bare₁, authorization₁⟩ := b₁
  obtain ⟨endpoint₂, bucket₂, bare₂, authorization₂⟩ := b₂
  obtain ⟨rfl, rfl, -, -⟩ := make_eq_ok h₁
  obtain ⟨rfl, rfl, -, -⟩ := make_eq_ok h₂
  obtain ⟨front, hfront, hurl⟩ := exists_path_uploadUrl (hkind _ hscheme)
  have hquestion : ∀ reading, '?' ∉ behind ['b'] reading ++ ['/', 'o'] := by
    intro reading h
    rcases List.mem_append.mp h with h | h
    . exact Url.question_not_mem_behind (by decide) reading h
    . exact absurd h (by decide)
  constructor
  . rw [hurl, hurl, Url.text_eq_iff hfront (hquestion _) (hquestion _)]
    rw [List.append_left_inj, List.append_right_inj]
    constructor
    . rintro ⟨hreading, hobject⟩
      exact ⟨Url.behind_injective (by decide) hreading,
        String.toList_inj.mp (Url.formEncode_injective hobject)⟩
    . rintro ⟨hreading, rfl⟩
      exact ⟨by rw [hreading], rfl⟩
  . rw [hurl, hasOwnSegment_iff hname, Url.reading?_eq_self_iff]
    simp only [ne_eq, ← String.toList_inj]
    rfl

theorem request_urls_agree_iff_of_a_slash_and_an_escape
    : ∃ b₁ b₂, make "a/b" "" (some defaultEndpoint) none = .ok b₁ ∧
        make "a%2Fb" "" (some defaultEndpoint) none = .ok b₂ ∧
        (b₁.uploadUrl "r.json").text ≠ (b₂.uploadUrl "r.json").text ∧
        HasOwnSegment "a/b" (b₁.uploadUrl "r.json").path := by
  have h₁ : make "a/b" "" (some defaultEndpoint) none = .ok ⟨defaultEndpoint, "a/b", "", none⟩ := by
    decide
  have h₂ : make "a%2Fb" "" (some defaultEndpoint) none
      = .ok ⟨defaultEndpoint, "a%2Fb", "", none⟩ := by
    decide
  have h := request_urls_agree_iff h₁ h₂ (by decide) "r.json" "r.json"
  have hkept : ∀ c ∈ "a/b".toList, Url.isTabOrLineBreak c = false := by
    simp [Url.isTabOrLineBreak]
  refine ⟨_, _, h₁, h₂, ?_, h.2.mpr ⟨hkept, by decide, by decide⟩⟩
  intro htext
  exact absurd (h.1.mp htext).1 (by decide)

theorem buckets_share_a_request_url
    : (∃ b₁ b₂, make "a\tb" "" none none = .ok b₁ ∧ make "ab" "" none none = .ok b₂ ∧
        (b₁.uploadUrl "r.json").text
          =
        "https://storage.googleapis.com/upload/storage/v1/b/ab/o?uploadType=media&name=r.json" ∧
        (b₂.uploadUrl "r.json").text = (b₁.uploadUrl "r.json").text) ∧
      ∃ b₁ b₂, make "." "" none none = .ok b₁ ∧ make ".." "" none none = .ok b₂ ∧
        (b₁.uploadUrl "r.json").text
          =
        "https://storage.googleapis.com/upload/storage/v1/b/o?uploadType=media&name=r.json" ∧
        (b₂.uploadUrl "r.json").text = (b₁.uploadUrl "r.json").text := by
  constructor
  . refine ⟨⟨defaultEndpoint, "a\tb", "", none⟩, ⟨defaultEndpoint, "ab", "", none⟩, ?_, ?_, ?_, ?_⟩
    . decide
    . decide
    . decide +kernel
    . decide +kernel
  . refine ⟨⟨defaultEndpoint, ".", "", none⟩, ⟨defaultEndpoint, "..", "", none⟩, ?_, ?_, ?_, ?_⟩
    . decide
    . decide
    . decide +kernel
    . decide +kernel

end Storage.Bucket
end ChatTelemetry
