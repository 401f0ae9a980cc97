import ChatTelemetry.Text.Utf8
import Mathlib.Data.List.Basic

/-!
This module shows that the bytes of a text stand for that text, and how a text can be cut where one
of its bytes is a whole character.
-/

namespace ChatTelemetry

namespace Text

theorem toNat_byte {n : Nat} (h : n < 256) : (UInt8.ofNat n).toNat = n :=
  UInt8.toNat_ofNat_of_lt' h

/-! ### The first byte of a character -/

namespace LeadByte

variable {n : Nat}

theorem ofByte_whole (h : n < 0x80) : ofByte (.ofNat n) = .whole (.ofNat n) := by
  unfold ofByte
  rw [toNat_byte (by omega)]
  exact if_pos h

theorem ofByte_two (hlow : 0xc2 ≤ n) (hhigh : n < 0xe0)
    : ofByte (.ofNat n) = .start ⟨n - 0xc0, 0, 0x80, 0xbf⟩ := by
  unfold ofByte
  dsimp only
  rw [toNat_byte (by omega), if_neg (by omega), if_neg (by omega), if_pos hhigh]

theorem ofByte_three (hlow : 0xe0 ≤ n) (hhigh : n < 0xf0)
    : ofByte (.ofNat n)
        =
      .start ⟨n - 0xe0, 1, if n == 0xe0 then 0xa0 else 0x80, if n == 0xed then 0x9f else 0xbf⟩ := by
  unfold ofByte
  dsimp only
  rw [toNat_byte (by omega), if_neg (by omega), if_neg (by omega), if_neg (by omega)]
  rw [if_pos hhigh]

theorem ofByte_four (hlow : 0xf0 ≤ n) (hhigh : n < 0xf5)
    : ofByte (.ofNat n)
        =
      .start ⟨n - 0xf0, 2, if n == 0xf0 then 0x90 else 0x80, if n == 0xf4 then 0x8f else 0xbf⟩ := by
  unfold ofByte
  dsimp only
  rw [toNat_byte (by omega), if_neg (by omega), if_neg (by omega), if_neg (by omega)]
  rw [if_neg (by omega), if_pos hhigh]

end LeadByte

/-! ### The bytes after the first -/

namespace chars

variable {value after n : Nat} {low high : UInt8}

theorem isBetween_byte (hlow : low.toNat ≤ n + 0x80) (hhigh : n + 0x80 ≤ high.toNat) (hn : n < 64)
    : (low ≤ .ofNat (n + 0x80) && .ofNat (n + 0x80) ≤ high) = true := by
  rw [Bool.and_eq_true, decide_eq_true_eq, decide_eq_true_eq]
  rw [UInt8.le_iff_toNat_le, UInt8.le_iff_toNat_le, toNat_byte (by omega)]
  exact ⟨hlow, hhigh⟩

theorem toNat_byte_mod (hn : n < 64) : (UInt8.ofNat (n + 0x80)).toNat % 64 = n := by
  rw [toNat_byte (by omega)]
  omega

theorem go_next (hlow : low.toNat ≤ n + 0x80) (hhigh : n + 0x80 ≤ high.toNat) (hn : n < 64)
    (bytes : List UInt8)
    : go (some ⟨value, after + 1, low, high⟩) (.ofNat (n + 0x80) :: bytes)
        =
      go (some ⟨value * 64 + n, after, 0x80, 0xbf⟩) bytes := by
  rw [go, if_pos (isBetween_byte hlow hhigh hn)]
  dsimp only
  rw [toNat_byte_mod hn]

theorem go_last (hn : n < 64) (bytes : List UInt8)
    : go (some ⟨value, 0, 0x80, 0xbf⟩) (.ofNat (n + 0x80) :: bytes)
        =
      some (.ofNat (value * 64 + n)) :: go none bytes := by
  have hlow : (0x80 : UInt8).toNat ≤ n + 0x80 := Nat.le_add_left _ _
  have hhigh : n + 0x80 ≤ (0xbf : UInt8).toNat := by
    change n + 0x80 ≤ 0xbf
    omega
  rw [go, if_pos (isBetween_byte hlow hhigh hn)]
  dsimp only
  rw [toNat_byte_mod hn]

variable {v : Nat} (bytes : List UInt8)

theorem go_three_bytes (hlow : 0x800 ≤ v) (hhigh : v ≤ 0xffff) (hvalid : v < 0xd800 ∨ 0xdfff < v)
    : go none (.ofNat (v / 4096 % 0x10 + 0xe0) :: .ofNat (v / 64 % 0x40 + 0x80) ::
          .ofNat (v % 0x40 + 0x80) :: bytes)
        =
      some (.ofNat v) :: go none bytes := by
  have hvalue : ((v / 4096 % 0x10 + 0xe0 - 0xe0) * 64 + v / 64 % 0x40) * 64 + v % 0x40 = v := by
    omega
  rw [go, LeadByte.ofByte_three (by omega) (by omega)]
  dsimp only
  rw [go_next _ _ (by omega), go_last (by omega), hvalue]
  -- The least and the greatest second byte depend on the first one.
  . split
    next hlead =>
      rw [beq_iff_eq] at hlead
      change 0xa0 ≤ _
      omega
    next =>
      change 0x80 ≤ _
      omega
  . split
    next hlead =>
      rw [beq_iff_eq] at hlead
      change _ ≤ 0x9f
      omega
    next =>
      change _ ≤ 0xbf
      omega

theorem go_four_bytes (hlow : 0x10000 ≤ v) (hhigh : v < 0x110000)
    : go none (.ofNat (v / 262144 % 0x08 + 0xf0) :: .ofNat (v / 4096 % 0x40 + 0x80) ::
          .ofNat (v / 64 % 0x40 + 0x80) :: .ofNat (v % 0x40 + 0x80) :: bytes)
        =
      some (.ofNat v) :: go none bytes := by
  have hvalue : (((v / 262144 % 0x08 + 0xf0 - 0xf0) * 64 + v / 4096 % 0x40) * 64 +
      v / 64 % 0x40) * 64 + v % 0x40 = v := by
    omega
  rw [go, LeadByte.ofByte_four (by omega) (by omega)]
  dsimp only
  rw [go_next _ _ (by omega), go_next _ _ (by omega), go_last (by omega), hvalue]
  . change 0x80 ≤ _
    omega
  . change _ ≤ 0xbf
    omega
  . split
    next hlead =>
      rw [beq_iff_eq] at hlead
      change 0x90 ≤ _
      omega
    next =>
      change 0x80 ≤ _
      omega
  . split
    next hlead =>
      rw [beq_iff_eq] at hlead
      change _ ≤ 0x8f
      omega
    next =>
      change _ ≤ 0xbf
      omega

/-- The bytes of a character are read as that character. -/
theorem go_utf8EncodeChar (c : Char)
    : go none (String.utf8EncodeChar c ++ bytes) = some c :: go none bytes := by
  have hvalid : c.val.toNat < 0xd800 ∨ 0xdfff < c.val.toNat ∧ c.val.toNat < 0x110000 := c.valid
  have hself : Char.ofNat c.val.toNat = c := Char.ofNat_toNat c
  unfold String.utf8EncodeChar
  dsimp only
  generalize c.val.toNat = v at hvalid hself
  subst hself
  by_cases hone : v ≤ 0x7f
  . rw [if_pos hone, List.singleton_append, go, LeadByte.ofByte_whole (by omega)]
  . rw [if_neg hone]
    by_cases htwo : v ≤ 0x7ff
    . have hvalue : (v / 64 % 0x20 + 0xc0 - 0xc0) * 64 + v % 0x40 = v := by omega
      rw [if_pos htwo, List.cons_append, go, LeadByte.ofByte_two (by omega) (by omega)]
      dsimp only
      rw [List.singleton_append, go_last (by omega), hvalue]
    . rw [if_neg htwo]
      by_cases hthree : v ≤ 0xffff
      . rw [if_pos hthree]
        exact go_three_bytes bytes (by omega) hthree (by omega)
      . rw [if_neg hthree]
        exact go_four_bytes bytes (by omega) (by omega)

end chars

theorem chars_utf8 (cs : List Char) : chars (utf8 cs) = cs.map some := by
  unfold chars utf8
  induction cs with
  | nil => rfl
  | cons c cs ih => rw [List.flatMap_cons, chars.go_utf8EncodeChar, ih, List.map_cons]

/-- The bytes of a text stand for that text. -/
theorem ofUtf8?_utf8 (cs : List Char) : ofUtf8? (utf8 cs) = some cs := by
  unfold ofUtf8?
  rw [chars_utf8]
  induction cs with
  | nil => rfl
  | cons c cs ih => simp [List.mapM_cons, ih]

theorem ofUtf8Lossy_utf8 (cs : List Char) : ofUtf8Lossy (utf8 cs) = cs := by
  unfold ofUtf8Lossy
  rw [chars_utf8, List.map_map]
  exact List.map_id cs

theorem utf8_injective {cs ds : List Char} (h : utf8 cs = utf8 ds) : cs = ds := by
  rw [← ofUtf8Lossy_utf8 cs, ← ofUtf8Lossy_utf8 ds, h]

@[simp]
theorem utf8_nil : utf8 [] = [] := by
  rfl

theorem utf8_cons (c : Char) (cs : List Char)
    : utf8 (c :: cs) = String.utf8EncodeChar c ++ utf8 cs := by
  rfl

theorem utf8_append (cs ds : List Char) : utf8 (cs ++ ds) = utf8 cs ++ utf8 ds := by
  unfold utf8
  exact List.flatMap_append

/-! ### Bytes that are whole characters -/

theorem utf8EncodeChar_of_lt {c : Char} (h : c.toNat < 0x80)
    : String.utf8EncodeChar c = [.ofNat c.toNat] := by
  unfold String.utf8EncodeChar
  exact if_pos (Nat.le_of_lt_succ h)

theorem le_of_mem_utf8EncodeChar {c : Char} (h : 0x80 ≤ c.toNat) {b : UInt8}
    (hb : b ∈ String.utf8EncodeChar c)
    : 0x80 ≤ b := by
  have hlarge : ∀ n, 0x80 ≤ n → n < 0x100 → (0x80 : UInt8) ≤ .ofNat n := by
    intro n hlow hhigh
    rw [UInt8.le_iff_toNat_le, toNat_byte hhigh]
    exact hlow
  change 0x80 ≤ c.val.toNat at h
  unfold String.utf8EncodeChar at hb
  dsimp only at hb
  generalize c.val.toNat = v at h hb
  rw [if_neg (by omega)] at hb
  split_ifs at hb <;>
  . simp only [List.mem_cons, List.not_mem_nil, or_false] at hb
    rcases hb with rfl | rfl | rfl | rfl <;> exact hlarge _ (by omega) (by omega)

/-- A character of one byte has this byte to itself. -/
theorem mem_utf8EncodeChar_iff {s c : Char} (hs : s.toNat < 0x80)
    : .ofNat s.toNat ∈ String.utf8EncodeChar c ↔ c = s := by
  constructor
  . intro h
    by_cases hc : c.toNat < 0x80
    . rw [utf8EncodeChar_of_lt hc, List.mem_singleton] at h
      have hnat := congrArg UInt8.toNat h
      rw [toNat_byte (by omega), toNat_byte (by omega)] at hnat
      rw [← Char.ofNat_toNat c, ← Char.ofNat_toNat s, hnat]
    . have hle := le_of_mem_utf8EncodeChar (Nat.not_lt.mp hc) h
      rw [UInt8.le_iff_toNat_le, toNat_byte (by omega)] at hle
      exact absurd hs (Nat.not_lt.mpr hle)
  . rintro rfl
    rw [utf8EncodeChar_of_lt hs]
    exact List.mem_singleton_self _

theorem mem_utf8_iff {s : Char} (hs : s.toNat < 0x80) {cs : List Char}
    : .ofNat s.toNat ∈ utf8 cs ↔ s ∈ cs := by
  unfold utf8
  rw [List.mem_flatMap]
  simp only [mem_utf8EncodeChar_iff hs, exists_eq_right]

/-- What stands before such a byte in the bytes of a text is the bytes of a text. -/
theorem exists_eq_utf8_of_append {cs : List Char} {as bs : List UInt8} {b : UInt8} (hb : b < 0x80)
    (h : utf8 cs = as ++ b :: bs)
    : ∃ ds, as = utf8 ds := by
  induction cs generalizing as with
  | nil => exact absurd h.symm (by simp)
  | cons c cs ih =>
    rw [utf8_cons, List.append_eq_append_iff] at h
    obtain ⟨as', rfl, hrest⟩ | ⟨bs', hc, hrest⟩ := h
    . obtain ⟨ds, rfl⟩ := ih hrest
      exact ⟨c :: ds, rfl⟩
    . cases bs' with
      | nil =>
        refine ⟨[c], ?_⟩
        rw [utf8_cons, utf8_nil, List.append_nil, hc, List.append_nil]
      | cons b' bs' =>
        obtain rfl := (List.cons.inj hrest).1
        have hlt : c.toNat < 0x80 := by
          by_contra hle
          have hmem : b ∈ String.utf8EncodeChar c := by simp [hc]
          exact absurd hb (UInt8.not_lt.mpr (le_of_mem_utf8EncodeChar (Nat.not_lt.mp hle) hmem))
        rw [utf8EncodeChar_of_lt hlt, List.singleton_eq_append_iff] at hc
        obtain ⟨rfl, -⟩ | ⟨-, hnil⟩ := hc
        . exact ⟨[], rfl⟩
        . cases hnil

theorem LeadByte.le_low_of_start {b : UInt8} {p : PartialChar} (h : ofByte b = .start p)
    : 0x80 ≤ p.low := by
  unfold ofByte at h
  dsimp only at h
  split_ifs at h <;> simp only [LeadByte.start.injEq] at h <;> subst h <;>
  . dsimp only
    decide

theorem LeadByte.ofByte_of_lt {b : UInt8} (h : b < 0x80) : ofByte b = .whole (.ofNat b.toNat) := by
  rw [UInt8.lt_iff_toNat_lt] at h
  unfold ofByte
  exact if_pos h

/-- Where bytes are cut before such a byte, each stretch stands for the same as before. -/
theorem chars_append_of_lt {b : UInt8} (hb : b < 0x80) (as bs : List UInt8)
    : chars (as ++ b :: bs) = chars as ++ some (.ofNat b.toNat) :: chars bs := by
  suffices h : ∀ p : Option PartialChar, (∀ q ∈ p, 0x80 ≤ q.low) →
      chars.go p (as ++ b :: bs) = chars.go p as ++ some (.ofNat b.toNat) :: chars.go none bs from
    h none nofun
  induction as with
  | nil =>
    intro p hp
    cases p with
    | none => simp [chars.go, LeadByte.ofByte_of_lt hb]
    | some q =>
      have hq : ¬q.low ≤ b := UInt8.not_le.mpr (UInt8.lt_of_lt_of_le hb (hp q rfl))
      simp [chars.go, LeadByte.ofByte_of_lt hb, hq]
  | cons a as ih =>
    intro p hp
    have hnone := ih none nofun
    have hsome : ∀ q : PartialChar, 0x80 ≤ q.low →
        chars.go (some q) (as ++ b :: bs)
          = chars.go (some q) as ++ some (.ofNat b.toNat) :: chars.go none bs :=
      fun q hq => ih (some q) (by simpa using hq)
    cases p with
    | none =>
      rw [List.cons_append, chars.go, chars.go]
      cases ha : LeadByte.ofByte a with
      | invalid => simp [hnone]
      | whole c => simp [hnone]
      | start q => exact hsome q (LeadByte.le_low_of_start ha)
    | some q =>
      rw [List.cons_append, chars.go, chars.go]
      split
      . cases q.after with
        | zero => simp [hnone]
        | succ after => exact hsome _ (UInt8.le_refl 0x80)
      . cases ha : LeadByte.ofByte a with
        | invalid => simp [hnone]
        | whole c => simp [hnone]
        | start q => simp [hsome q (LeadByte.le_low_of_start ha)]

theorem ofUtf8Lossy_append_of_lt {b : UInt8} (hb : b < 0x80) (as bs : List UInt8)
    : ofUtf8Lossy (as ++ b :: bs) = ofUtf8Lossy as ++ .ofNat b.toNat :: ofUtf8Lossy bs := by
  unfold ofUtf8Lossy
  rw [chars_append_of_lt hb, List.map_append]
  rfl

end Text

end ChatTelemetry
