import ChatTelemetry.Proofs.Utf8
import ChatTelemetry.Storage.Filesystem

/-!
This module contains the theory of texts cut into segments, and what follows for object names and
for the paths that they are resolved to.
-/

namespace ChatTelemetry

namespace Text

section

variable {α : Type} [DecidableEq α] {separator : α}

@[simp]
theorem segments_cons_self (cs : List α)
    : segments separator (separator :: cs) = [] :: segments separator cs := by
  simp [segments]

theorem segments_cons_of_ne {c : α} (h : c ≠ separator) {cs s : List α}
    {rest : List (List α)} (hs : segments separator cs = s :: rest)
    : segments separator (c :: cs) = (c :: s) :: rest := by
  simp [segments, h, hs]

theorem segments_append_of_not_mem {cs ds s : List α} (h : separator ∉ cs) {rest : List (List α)}
    (hs : segments separator ds = s :: rest)
    : segments separator (cs ++ ds) = (cs ++ s) :: rest := by
  induction cs with
  | nil => exact hs
  | cons c cs ih =>
    rw [List.mem_cons, not_or] at h
    exact segments_cons_of_ne (Ne.symm h.1) (ih h.2)

theorem segments_append_separator (as bs : List α)
    : segments separator (as ++ separator :: bs)
        =
      segments separator as ++ segments separator bs := by
  induction as with
  | nil => simp [segments]
  | cons a as ih =>
    cases hs : segments separator as with
    | nil => exact absurd hs (segments_ne_nil separator as)
    | cons s rest =>
      rw [hs] at ih
      by_cases ha : a = separator
      . subst ha
        simp [ih, hs]
      . rw [List.cons_append]
        rw [segments_cons_of_ne ha ih]
        rw [segments_cons_of_ne ha hs]
        rfl

/-- A text without separators goes to the end of the last segment of what it follows. -/
theorem segments_append (cs : List α)
    : ∃ front last,
        segments separator cs = front ++ [last] ∧
        ∀ ending, separator ∉ ending →
          segments separator (cs ++ ending) = front ++ [last ++ ending] := by
  induction cs with
  | nil =>
    refine ⟨[], [], rfl, ?_⟩
    intro ending h
    induction ending with
    | nil => rfl
    | cons e ending ih =>
      have he : e ≠ separator := by
        rintro rfl
        simp at h
      exact segments_cons_of_ne he (ih (by simp_all))
  | cons c cs ih =>
    obtain ⟨front, last, hcs, hending⟩ := ih
    by_cases hc : c = separator
    . subst hc
      refine ⟨[] :: front, last, by simp [hcs], ?_⟩
      intro ending h
      simp [hending ending h]
    -- Without a separator the character goes to the front of the first segment, which is the last
    -- one too if it is the only one.
    . cases front with
      | nil =>
        refine ⟨[], c :: last, segments_cons_of_ne hc hcs, ?_⟩
        intro ending h
        exact segments_cons_of_ne hc (hending ending h)
      | cons s front =>
        refine ⟨(c :: s) :: front, last, segments_cons_of_ne hc hcs, ?_⟩
        intro ending h
        exact segments_cons_of_ne hc (hending ending h)

theorem segments_injective {cs ds : List α} (h : segments separator cs = segments separator ds)
    : cs = ds := by
  rw [← join_segments separator cs, ← join_segments separator ds, h]

end

theorem join_cons (sep s : List α) {rest : List (List α)} (h : rest ≠ [])
    : join sep (s :: rest) = s ++ sep ++ join sep rest := by
  cases rest with
  | nil => exact absurd rfl h
  | cons t rest => rfl

theorem join_sublist (sep : List α) {xs ys : List (List α)} (h : xs.Sublist ys)
    : (join sep xs).Sublist (join sep ys) := by
  induction h with
  | slnil => exact List.Sublist.refl _
  | @cons xs ys y _ ih =>
    apply ih.trans
    by_cases hys : ys = []
    . subst hys
      exact List.nil_sublist _
    . rw [join_cons sep y hys]
      exact List.sublist_append_right ..
  | @cons_cons xs ys y h ih =>
    by_cases hxs : xs = []
    . subst hxs
      by_cases hys : ys = []
      . subst hys
        exact List.Sublist.refl _
      . rw [join_cons sep y hys]
        rw [List.append_assoc]
        exact List.sublist_append_left ..
    . have hys : ys ≠ [] := by
        rintro rfl
        exact hxs (List.sublist_nil.mp h)
      rw [join_cons sep y hxs, join_cons sep y hys]
      exact ih.append_left _

/-- Texts are cut at a character of one byte as their bytes are cut at this byte. -/
theorem segments_utf8 {s : Char} (hs : s.toNat < 0x80) (cs : List Char)
    : segments (.ofNat s.toNat) (utf8 cs) = (segments s cs).map utf8 := by
  induction cs with
  | nil => rfl
  | cons c cs ih =>
    by_cases hc : c = s
    . subst hc
      rw [utf8_cons, utf8EncodeChar_of_lt hs, List.singleton_append, segments_cons_self,
        segments_cons_self, ih]
      rfl
    . have hbytes : .ofNat s.toNat ∉ String.utf8EncodeChar c := by
        rwa [mem_utf8EncodeChar_iff hs]
      cases hsegments : segments s cs with
      | nil => exact absurd hsegments (segments_ne_nil s cs)
      | cons first rest =>
        rw [hsegments, List.map_cons] at ih
        rw [utf8_cons, segments_append_of_not_mem hbytes ih, segments_cons_of_ne hc hsegments]
        rfl

theorem utf8_join (separator : List Char) (names : List (List Char))
    : utf8 (join separator names) = join (utf8 separator) (names.map utf8) := by
  induction names with
  | nil => rfl
  | cons s rest ih =>
    cases rest with
    | nil => rfl
    | cons t rest =>
      rw [join, utf8_append, utf8_append, ih]
      rfl

end Text

namespace Storage

def IsPlain (s : List Char) : Prop :=
  s ≠ [] ∧ s ≠ ['.'] ∧ s ≠ ['.', '.']

instance (s : List Char) : Decidable (IsPlain s) :=
  inferInstanceAs (Decidable (_ ∧ _ ∧ _))

def objectSegments (name : String) : List (List Char) :=
  Text.segments '/' name.toList

theorem objectSegments_ne_nil (name : String) : objectSegments name ≠ [] := by
  apply Text.segments_ne_nil

theorem objectSegments_injective {n m : String} (h : objectSegments n = objectSegments m)
    : n = m := by
  apply String.ext
  exact Text.segments_injective h

theorem isObjectName_iff {name : String}
    : isObjectName name = true
        ↔
      '\\' ∉ name.toList ∧ ∀ s ∈ objectSegments name, IsPlain s := by
  simp [isObjectName, objectSegments, IsPlain, isDotSegment]

theorem isPlain_of_isObjectName {name : String} (h : isObjectName name = true)
    : ∀ s ∈ objectSegments name, IsPlain s := by
  exact (isObjectName_iff.mp h).2

/-! ### Names of files -/

/-- A name that leads down. -/
def IsPlainName (name : Name) : Prop :=
  name ≠ [] ∧ name ≠ Path.dot ∧ name ≠ Path.dots

/-- The names that an object's path goes through. -/
def objectNames (name : String) : List Name :=
  (objectSegments name).map Text.utf8

theorem segments_bytes (name : String)
    : Text.segments Path.slash (Text.bytes name) = objectNames name :=
  Text.segments_utf8 (s := '/') (by decide) name.toList

theorem objectNames_ne_nil (name : String) : objectNames name ≠ [] := by
  rw [objectNames, ne_eq, List.map_eq_nil_iff]
  exact objectSegments_ne_nil name

theorem objectNames_injective {n m : String} (h : objectNames n = objectNames m) : n = m :=
  objectSegments_injective (List.map_injective_iff.mpr (fun _ _ => Text.utf8_injective) h)

theorem IsPlain.utf8 {s : List Char} (h : IsPlain s) : IsPlainName (Text.utf8 s) := by
  obtain ⟨hempty, hdot, hdots⟩ := h
  refine ⟨fun h => hempty ?_, fun h => hdot ?_, fun h => hdots ?_⟩
  . exact Text.utf8_injective h
  . exact Text.utf8_injective h
  . exact Text.utf8_injective h

theorem isPlainName_of_isObjectName {name : String} (h : isObjectName name = true)
    : ∀ s ∈ objectNames name, IsPlainName s := by
  rw [objectNames, List.forall_mem_map]
  exact fun s hs => (isPlain_of_isObjectName h s hs).utf8

/-! ### Paths -/

namespace Path

theorem ofBytes_of_segments_append {bs bs' : List UInt8} {extra : List Name}
    (hplain : ∀ s ∈ extra, IsPlainName s)
    (habsolute : [slash].isPrefixOf bs' = [slash].isPrefixOf bs)
    (hsegments : (Text.segments slash bs').filter (fun s => !s.isEmpty)
      = (Text.segments slash bs).filter (fun s => !s.isEmpty) ++ extra)
    : ofBytes bs' = { ofBytes bs with names := (ofBytes bs).names ++ extra } := by
  have hextra : extra.filter (· != dot) = extra := by
    rw [List.filter_eq_self]
    intro s hs
    simpa using (hplain s hs).2.1
  unfold ofBytes
  rw [habsolute, hsegments]
  generalize (Text.segments slash bs).filter (fun s => !s.isEmpty) = names
  cases [slash].isPrefixOf bs with
  | true => simp [hextra]
  | false =>
    cases names with
    | nil =>
      cases extra with
      | nil => rfl
      | cons s extra =>
        have hs : s ≠ dot := (hplain s (by simp)).2.1
        simp only [List.nil_append]
        split
        . simp_all
        . simp_all
    | cons name names =>
      by_cases hname : name = dot
      . subst hname
        simp [hextra]
      . simp only [List.cons_append]
        split
        . simp_all
        . split
          . simp_all
          . simp_all

theorem isPrefixOf_append_slash (bs bs' : List UInt8)
    : [slash].isPrefixOf (bs ++ slash :: bs') = [slash].isPrefixOf (bs ++ [slash]) := by
  cases bs with
  | nil => rfl
  | cons b bs => rfl

theorem filter_segments_slash (bs : List UInt8)
    : (Text.segments slash (bs ++ [slash])).filter (fun s => !s.isEmpty)
        =
      (Text.segments slash bs).filter (fun s => !s.isEmpty) := by
  rw [Text.segments_append_separator]
  rw [List.filter_append]
  simp [Text.segments]

theorem isAbsolute_ofBytes (bs : List UInt8)
    : (ofBytes bs).isAbsolute = [slash].isPrefixOf bs := by
  unfold ofBytes
  dsimp only
  split
  . next h _ => exact h.symm
  . rfl

theorem names_ofBytes_sublist (bs : List UInt8)
    : (ofBytes bs).names.Sublist ((Text.segments slash bs).filter fun s => !s.isEmpty) := by
  unfold ofBytes
  dsimp only
  split
  . next h =>
    rw [h]
    exact List.filter_sublist.cons_cons _
  . exact List.filter_sublist

theorem bytes_sublist {bs : List UInt8} {names : List Name}
    (h : names.Sublist (ofBytes bs).names)
    : (Path.mk (ofBytes bs).isAbsolute names).bytes.Sublist bs := by
  have hnames := h.trans (names_ofBytes_sublist bs)
  unfold bytes
  rw [isAbsolute_ofBytes]
  cases habsolute : [slash].isPrefixOf bs with
  | false =>
    have hjoin := Text.join_sublist [slash] (hnames.trans List.filter_sublist)
    rw [Text.join_segments] at hjoin
    simpa using hjoin
  | true =>
    obtain ⟨rest, rfl⟩ := List.isPrefixOf_iff_prefix.mp habsolute
    have hrest : names.Sublist (Text.segments slash rest) := by
      apply hnames.trans
      simp
    have hjoin := Text.join_sublist [slash] hrest
    rw [Text.join_segments] at hjoin
    simpa using hjoin

end Path

theorem pathFault?_eq_none_iff {bs : List UInt8}
    : pathFault? bs = none ↔ 0 ∉ bs ∧ bs.length < pathLimit := by
  unfold pathFault?
  split
  . next h =>
    simp at h
    simp [h]
  . next h =>
    simp at h
    split
    . next hlimit => simp [Nat.not_lt.mpr hlimit]
    . next hlimit => simp [h, Nat.not_le.mp hlimit]

theorem pathFault?_eq_none_of_sublist {bs bs' : List UInt8} (h : bs'.Sublist bs)
    (hbs : pathFault? bs = none)
    : pathFault? bs' = none := by
  rw [pathFault?_eq_none_iff] at hbs ⊢
  exact ⟨fun hnul => hbs.1 (h.subset hnul), Nat.lt_of_le_of_lt h.length_le hbs.2⟩

theorem pathFault?_parent {bs : List UInt8} (h : pathFault? bs = none)
    : pathFault? (Path.ofBytes bs).parent.bytes = none := by
  exact pathFault?_eq_none_of_sublist (Path.bytes_sublist (List.dropLast_sublist _)) h

namespace Filesystem

/-- An object's path goes on from the base through the segments of its name. -/
theorem ofBytes_objectPath (base : List UInt8) {name : String} (h : isObjectName name = true)
    : Path.ofBytes (objectPath base name)
        =
      { Path.ofBytes base with names := (Path.ofBytes base).names ++ objectNames name } := by
  have hplain := isPlainName_of_isObjectName h
  have hfilter : (Text.segments Path.slash (Text.bytes name)).filter (fun s => !s.isEmpty)
      = objectNames name := by
    rw [segments_bytes, List.filter_eq_self]
    intro s hs
    simpa using (hplain s hs).1
  unfold objectPath
  split
  . next hbase =>
    subst hbase
    apply Path.ofBytes_of_segments_append hplain
    . cases hbytes : Text.bytes name with
      | nil => rfl
      | cons b bs =>
        by_cases hb : b = Path.slash
        . subst hb
          have hempty : [] ∈ objectNames name := by
            simp [← segments_bytes, hbytes]
          exact absurd rfl (hplain [] hempty).1
        . simp [List.isPrefixOf, Ne.symm hb]
    . exact hfilter
  . split
    . next hlast =>
      obtain ⟨front, rfl⟩ := List.getLast?_eq_some_iff.mp hlast
      apply Path.ofBytes_of_segments_append hplain
      . rw [List.append_assoc]
        exact Path.isPrefixOf_append_slash front (Text.bytes name)
      . rw [List.append_assoc, Path.filter_segments_slash]
        rw [List.singleton_append, Text.segments_append_separator, List.filter_append]
        exact congrArg (_ ++ ·) hfilter
    . next hbase _ =>
      apply Path.ofBytes_of_segments_append hplain
      . cases base with
        | nil => exact absurd rfl hbase
        | cons b bs => rfl
      . rw [Text.segments_append_separator, List.filter_append]
        exact congrArg (_ ++ ·) hfilter

end Filesystem
end Storage
end ChatTelemetry
