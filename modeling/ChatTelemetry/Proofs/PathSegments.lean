import ChatTelemetry.Proofs.ObjectName
import ChatTelemetry.Proofs.PercentEncoding
import ChatTelemetry.Url.Parser
import Mathlib.Data.List.TakeWhile

/-!
This module contains the theory of how the path of a locator is read: it is written as the text has
it, segment by segment, unless a segment stands for dots or is a drive letter.
-/

namespace ChatTelemetry

namespace Text

theorem ne_of_class {p : Char → Bool} {c d : Char} (hc : p c = true) (hd : p d = false)
    : c ≠ d := by
  rintro rfl
  exact Bool.false_ne_true (hd.symm.trans hc)

theorem eq_or_of_toLower_eq {c d : Char} (h : c.toLower = d)
    : c = d ∨ c.toNat + 32 = d.toNat ∧ 65 ≤ c.toNat ∧ c.toNat ≤ 90 := by
  unfold Char.toLower at h
  split at h
  next hupper =>
    right
    subst h
    obtain ⟨hlow, hhigh⟩ := hupper
    rw [ge_iff_le, UInt32.le_iff_toNat_le] at hlow
    rw [UInt32.le_iff_toNat_le] at hhigh
    refine ⟨?_, hlow, hhigh⟩
    have hhigh : c.toNat ≤ 90 := hhigh
    change c.toNat + 32 = (c.val + 32).toNat
    rw [UInt32.toNat_add]
    change c.toNat + 32 = (c.toNat + 32) % 2 ^ 32
    omega
  next => exact .inl h

theorem eq_of_toLower_eq {c d : Char} (hd : d.toNat < 97) (h : c.toLower = d) : c = d := by
  rcases eq_or_of_toLower_eq h with h | ⟨h, hlow, _⟩
  . exact h
  . omega

theorem eq_of_toLower_eq_e {c : Char} (h : c.toLower = 'e') : c = 'e' ∨ c = 'E' := by
  rcases eq_or_of_toLower_eq h with h | ⟨h, _⟩
  . exact .inl h
  . right
    have hself : c.toNat = 69 := Nat.add_right_cancel h
    rw [← Char.ofNat_toNat c, hself]

/-! ### Joined segments -/

variable {α : Type} {separator : List α} {segments : List (List α)} {c : α}

theorem mem_head?_join (hne : ∀ s ∈ segments, s ≠ []) (h : c ∈ (join separator segments).head?)
    : ∃ s ∈ segments, c ∈ s.head? := by
  cases segments with
  | nil => contradiction
  | cons s rest =>
    refine ⟨s, List.mem_cons_self, ?_⟩
    cases rest with
    | nil => exact h
    | cons t rest =>
      rw [join_cons _ _ (List.cons_ne_nil t rest), List.append_assoc] at h
      rwa [List.head?_append_of_ne_nil _ (hne s List.mem_cons_self)] at h

theorem join_ne_nil (hsegments : segments ≠ []) (hne : ∀ s ∈ segments, s ≠ [])
    : join separator segments ≠ [] := by
  obtain ⟨s, rest, rfl⟩ := List.exists_cons_of_ne_nil hsegments
  by_cases hrest : rest = []
  . subst hrest
    exact hne s List.mem_cons_self
  . rw [join_cons _ _ hrest]
    simp [hne s List.mem_cons_self]

theorem mem_getLast?_join (hne : ∀ s ∈ segments, s ≠ [])
    (h : c ∈ (join separator segments).getLast?)
    : ∃ s ∈ segments, c ∈ s.getLast? := by
  induction segments with
  | nil => contradiction
  | cons s rest ih =>
    have hne' : ∀ s ∈ rest, s ≠ [] := fun t ht => hne t (List.mem_cons_of_mem s ht)
    by_cases hrest : rest = []
    . subst hrest
      exact ⟨s, List.mem_cons_self, h⟩
    . rw [join_cons _ _ hrest, List.getLast?_append_of_ne_nil _ (join_ne_nil hrest hne')] at h
      obtain ⟨t, ht, hc⟩ := ih hne' h
      exact ⟨t, List.mem_cons_of_mem s ht, hc⟩

theorem not_mem_head?_join (hne : ∀ s ∈ segments, s ≠ []) (h : ∀ s ∈ segments, c ∉ s)
    : c ∉ (join separator segments).head? := by
  intro hc
  obtain ⟨s, hs, hc⟩ := mem_head?_join hne hc
  exact h s hs (List.mem_of_mem_head? hc)

theorem not_mem_getLast?_join (hne : ∀ s ∈ segments, s ≠ []) (h : ∀ s ∈ segments, c ∉ s)
    : c ∉ (join separator segments).getLast? := by
  intro hc
  obtain ⟨s, hs, hc⟩ := mem_getLast?_join hne hc
  exact h s hs (List.mem_of_mem_getLast? hc)

theorem mem_join (h : c ∈ join separator segments) : c ∈ separator ∨ ∃ s ∈ segments, c ∈ s := by
  induction segments with
  | nil => contradiction
  | cons s rest ih =>
    by_cases hrest : rest = []
    . subst hrest
      exact .inr ⟨s, List.mem_cons_self, h⟩
    . rw [join_cons _ _ hrest, List.mem_append, List.mem_append] at h
      rcases h with (h | h) | h
      . exact .inr ⟨s, List.mem_cons_self, h⟩
      . exact .inl h
      . rcases ih h with h | ⟨t, ht, hc⟩
        . exact .inl h
        . exact .inr ⟨t, List.mem_cons_of_mem s ht, hc⟩

end Text

namespace Url

/-! ### Dots -/

theorem percentDecode_append_of_isSingleDot {s : List Char} (h : isSingleDot s = true)
    (rest : List Char)
    : Text.percentDecode (s ++ rest) = 0x2e :: Text.percentDecode rest := by
  unfold isSingleDot at h
  simp only [Bool.or_eq_true, beq_iff_eq] at h
  rcases h with hdot | hescaped
  . obtain ⟨a, rfl, ha⟩ := List.map_eq_singleton_iff.mp hdot
    rw [Text.eq_of_toLower_eq (by decide) ha]
    exact Text.percentDecode_cons (by decide) rest
  . have hmarks : s.map Char.toLower = ['%', '2', 'e'] := hescaped
    simp only [List.map_eq_cons_iff, List.map_eq_nil_iff] at hmarks
    obtain ⟨a, _, rfl, ha, b, _, rfl, hb, c, _, rfl, hc, rfl⟩ := hmarks
    rw [Text.eq_of_toLower_eq (by decide) ha, Text.eq_of_toLower_eq (by decide) hb]
    rcases Text.eq_of_toLower_eq_e hc with rfl | rfl
    . rfl
    . rfl

theorem exists_append_of_isDoubleDot {s : List Char} (h : isDoubleDot s = true)
    : ∃ a b, s = a ++ b ∧ isSingleDot a = true ∧ isSingleDot b = true := by
  have hparts : ∃ x ∈ [".".toList, "%2e".toList], ∃ y ∈ [".".toList, "%2e".toList],
      s.map Char.toLower = x ++ y := by
    unfold isDoubleDot at h
    simp only [Bool.or_eq_true, beq_iff_eq] at h
    rcases h with ((h | h) | h) | h
    . exact ⟨_, List.mem_cons_self, _, List.mem_cons_self, h⟩
    . exact ⟨_, List.mem_cons_self, _, List.mem_cons_of_mem _ List.mem_cons_self, h⟩
    . exact ⟨_, List.mem_cons_of_mem _ List.mem_cons_self, _, List.mem_cons_self, h⟩
    . exact ⟨_, List.mem_cons_of_mem _ List.mem_cons_self, _,
        List.mem_cons_of_mem _ List.mem_cons_self, h⟩
  have hsingle : ∀ a : List Char, a.map Char.toLower ∈ [".".toList, "%2e".toList] →
      isSingleDot a = true := by
    intro a ha
    unfold isSingleDot
    simpa using ha
  obtain ⟨x, hx, y, hy, heq⟩ := hparts
  obtain ⟨a, b, rfl, rfl, rfl⟩ := List.map_eq_append_iff.mp heq
  exact ⟨a, b, rfl, hsingle a hx, hsingle b hy⟩

/-- What is taken for one dot stands for one. -/
theorem eq_dot_of_isSingleDot {escaped : Char → Bool} {cs : List Char}
    (hpercent : '%' ∈ cs → escaped '%' = true)
    (h : isSingleDot (Text.percentEncode escaped cs) = true)
    : cs = ['.'] := by
  have hdecoded := percentDecode_append_of_isSingleDot h []
  rw [List.append_nil, Text.percentDecode_percentEncode hpercent] at hdecoded
  exact Text.utf8_injective (hdecoded.trans rfl)

theorem eq_dots_of_isDoubleDot {escaped : Char → Bool} {cs : List Char}
    (hpercent : '%' ∈ cs → escaped '%' = true)
    (h : isDoubleDot (Text.percentEncode escaped cs) = true)
    : cs = ['.', '.'] := by
  obtain ⟨a, b, hab, ha, hb⟩ := exists_append_of_isDoubleDot h
  have hdecoded := Text.percentDecode_percentEncode hpercent
  have hlast := percentDecode_append_of_isSingleDot hb []
  rw [List.append_nil] at hlast
  rw [hab, percentDecode_append_of_isSingleDot ha, hlast] at hdecoded
  exact Text.utf8_injective (hdecoded.symm.trans rfl)

/-! ### Segments as they are written -/

theorem escapedInPath_cases {c : Char} (h : escapedInPath c = true)
    : isControl c = true ∨ c ∈ " \"<>\x60#?\x7b\x7d".toList := by
  simpa [escapedInPath, escapedInFragment, or_assoc] using h

/-- A segment that is put into a path as it is written. -/
structure IsOrdinary (kind : SchemeKind) (segment : List Char) : Prop where
  slash_not_mem : '/' ∉ segment
  backslash_not_mem : kind.isSpecial = true → '\\' ∉ segment
  question_not_mem : '?' ∉ segment
  hash_not_mem : '#' ∉ segment
  not_single : isSingleDot (Text.percentEncode escapedInPath segment) = false
  not_double : isDoubleDot (Text.percentEncode escapedInPath segment) = false
  not_drive : kind = .file → isDriveLetter (Text.percentEncode escapedInPath segment) = false

variable {kind : SchemeKind} {segment : List Char}

namespace IsOrdinary

theorem nil (kind : SchemeKind) : IsOrdinary kind [] where
  slash_not_mem := List.not_mem_nil
  backslash_not_mem _ := List.not_mem_nil
  question_not_mem := List.not_mem_nil
  hash_not_mem := List.not_mem_nil
  not_single := rfl
  not_double := rfl
  not_drive _ := rfl

theorem not_mark (h : IsOrdinary kind segment) {c : Char} (hc : c ∈ segment)
    : (c == '/' || (kind.isSpecial && c == '\\')) = false := by
  have hslash : c ≠ '/' := by
    rintro rfl
    exact h.slash_not_mem hc
  cases hspecial : kind.isSpecial with
  | false => simpa using hslash
  | true =>
    have hbackslash : c ≠ '\\' := by
      rintro rfl
      exact h.backslash_not_mem hspecial hc
    simp [hslash, hbackslash]

theorem not_endsPath (h : IsOrdinary kind segment) {c : Char} (hc : c ∈ segment)
    : endsPath c = false := by
  have hquestion : c ≠ '?' := by
    rintro rfl
    exact h.question_not_mem hc
  have hhash : c ≠ '#' := by
    rintro rfl
    exact h.hash_not_mem hc
  simp [endsPath, hquestion, hhash]

theorem appendSegment_eq (h : IsOrdinary kind segment) (path : List Char) (slash : Bool)
    : appendSegment kind path (Text.percentEncode escapedInPath segment) slash
        =
      path ++ Text.percentEncode escapedInPath segment ++ if slash then ['/'] else [] := by
  have hdrive : (kind == .file && path.length == 1 &&
      isDriveLetter (Text.percentEncode escapedInPath segment)) = false := by
    cases kind with
    | file => simp [h.not_drive rfl]
    | web => rfl
    | other => rfl
  unfold appendSegment
  dsimp only
  rw [h.not_double, h.not_single, hdrive]
  rfl

end IsOrdinary

theorem writtenSegments_eq_singleton {isSpecial : Bool} {s : List Char}
    (h : ∀ c ∈ s, (c == '/' || (isSpecial && c == '\\')) = false)
    : writtenSegments isSpecial s = [(s, false)] := by
  induction s with
  | nil => rfl
  | cons c s ih =>
    obtain ⟨hc, hs⟩ := List.forall_mem_cons.mp h
    rw [writtenSegments, hc, ih hs]
    rfl

theorem writtenSegments_append_slash {isSpecial : Bool} {s : List Char}
    (h : ∀ c ∈ s, (c == '/' || (isSpecial && c == '\\')) = false) (rest : List Char)
    : writtenSegments isSpecial (s ++ '/' :: rest)
        =
      (s, true) :: writtenSegments isSpecial rest := by
  induction s with
  | nil => simp [writtenSegments]
  | cons c s ih =>
    obtain ⟨hc, hs⟩ := List.forall_mem_cons.mp h
    rw [List.cons_append, writtenSegments, hc, ih hs]
    rfl

theorem IsOrdinary.appendSegments_eq (h : IsOrdinary kind segment) (path : List Char)
    : appendSegments kind path segment = path ++ Text.percentEncode escapedInPath segment := by
  unfold appendSegments
  rw [writtenSegments_eq_singleton fun c hc => h.not_mark hc, List.foldl_cons, List.foldl_nil]
  dsimp only
  rw [h.appendSegment_eq]
  exact List.append_nil _

theorem IsOrdinary.appendSegments_append_slash (h : IsOrdinary kind segment)
    (path rest : List Char)
    : appendSegments kind path (segment ++ '/' :: rest)
        =
      appendSegments kind (path ++ Text.percentEncode escapedInPath segment ++ ['/']) rest := by
  unfold appendSegments
  rw [writtenSegments_append_slash fun c hc => h.not_mark hc, List.foldl_cons]
  dsimp only
  rw [h.appendSegment_eq]
  rfl

/-- Ordinary segments are put into a path as they are written. -/
theorem appendSegments_join {segments : List (List Char)} (hne : segments ≠ [])
    (h : ∀ s ∈ segments, IsOrdinary kind s) (path : List Char)
    : appendSegments kind path (Text.join ['/'] segments)
        =
      path ++ Text.percentEncode escapedInPath (Text.join ['/'] segments) := by
  -- Each segment goes behind the path that the ones before it have made, so the path varies.
  induction segments generalizing path with
  | nil => exact absurd rfl hne
  | cons s rest ih =>
    obtain ⟨hs, hrest⟩ := List.forall_mem_cons.mp h
    by_cases hlast : rest = []
    . subst hlast
      exact hs.appendSegments_eq path
    . have hslash : Text.percentEncode escapedInPath ['/'] = ['/'] := rfl
      rw [Text.join_cons _ _ hlast, Text.percentEncode_append, Text.percentEncode_append, hslash]
      rw [List.append_assoc, List.singleton_append, hs.appendSegments_append_slash, ih hlast hrest]
      simp only [List.append_assoc]

/-- What comes of a text without a query and a fragment. -/
theorem withRest_of_path (scheme : List Char) (authority : Option Authority) (path : List Char)
    {text : List Char} (h : ∀ c ∈ text, endsPath c = false)
    : withRest scheme authority path text
        =
      { scheme, authority, path := appendSegments (.ofScheme scheme) path text } := by
  have htake : text.takeWhile (fun c => !endsPath c) = text := by
    rw [List.takeWhile_eq_self_iff]
    intro c hc
    simp [h c hc]
  have hdrop : text.dropWhile (fun c => !endsPath c) = [] := by
    rw [List.dropWhile_eq_nil_iff]
    intro c hc
    simp [h c hc]
  unfold withRest
  rw [htake, hdrop]
  rfl

/-- What comes of a text that is a path of ordinary segments from the root. -/
theorem withRest_join {scheme : List Char} {authority : Option Authority}
    {segments : List (List Char)} (hne : segments ≠ [])
    (h : ∀ s ∈ segments, IsOrdinary (.ofScheme scheme) s)
    : withRest scheme authority [] ('/' :: Text.join ['/'] segments)
        =
      {
        scheme
        authority
        path := '/' :: Text.percentEncode escapedInPath (Text.join ['/'] segments) } := by
  have hjoin : '/' :: Text.join ['/'] segments = Text.join ['/'] ([] :: segments) := by
    rw [Text.join_cons _ _ hne]
    rfl
  have hordinary : ∀ s ∈ [] :: segments, IsOrdinary (.ofScheme scheme) s := by
    rw [List.forall_mem_cons]
    exact ⟨.nil _, h⟩
  have hends : ∀ c ∈ '/' :: Text.join ['/'] segments, endsPath c = false := by
    intro c hc
    rw [hjoin] at hc
    rcases Text.mem_join hc with hc | ⟨s, hs, hc⟩
    . rw [List.mem_singleton.mp hc]
      rfl
    . exact (hordinary s hs).not_endsPath hc
  rw [withRest_of_path _ _ _ hends, hjoin, appendSegments_join (List.cons_ne_nil _ _) hordinary]
  rw [← hjoin]
  rfl

end Url

end ChatTelemetry
