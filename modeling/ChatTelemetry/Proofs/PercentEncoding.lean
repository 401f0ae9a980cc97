import ChatTelemetry.Proofs.Utf8
import ChatTelemetry.Text.Percent
import Mathlib.Data.List.Induction

/-!
This module contains the theory of texts in which bytes stand behind percent signs: what they are
decoded to, and which texts are written as they are.
-/

namespace ChatTelemetry

namespace Text

/-! ### Bytes behind percent signs -/

def upperHexDigit (n : Nat) : Char :=
  (hexDigit n).toUpper

theorem hexValue?_upperHexDigit : ∀ n < 16, hexValue? (upperHexDigit n) = some n := by
  decide

theorem percentByte_eq (b : UInt8)
    : percentByte b = ['%', upperHexDigit (b.toNat / 16), upperHexDigit (b.toNat % 16)] := by
  have hhigh : b.toNat / 16 % 16 = b.toNat / 16 := Nat.mod_eq_of_lt (by have := b.toNat_lt; omega)
  simp [percentByte, hexDigits, upperHexDigit, hhigh]

def percentChars : List Char :=
  "%0123456789ABCDEF".toList

theorem upperHexDigit_mem_percentChars : ∀ n < 16, upperHexDigit n ∈ percentChars := by
  decide

theorem mem_percentByte {c : Char} {b : UInt8} (h : c ∈ percentByte b) : c ∈ percentChars := by
  have hb := b.toNat_lt
  rw [percentByte_eq, List.mem_cons, List.mem_cons, List.mem_singleton] at h
  rcases h with rfl | rfl | rfl
  . decide
  . exact upperHexDigit_mem_percentChars _ (by omega)
  . exact upperHexDigit_mem_percentChars _ (by omega)

theorem percentDecode_percentByte (b : UInt8) (rest : List Char)
    : percentDecode (percentByte b ++ rest) = b :: percentDecode rest := by
  have hb := b.toNat_lt
  have hhigh := hexValue?_upperHexDigit (b.toNat / 16) (by omega)
  have hlow := hexValue?_upperHexDigit (b.toNat % 16) (by omega)
  have hself : UInt8.ofNat (16 * (b.toNat / 16) + b.toNat % 16) = b := by
    rw [Nat.div_add_mod]
    exact UInt8.ofNat_toNat
  rw [percentByte_eq]
  simp only [List.cons_append, List.nil_append, percentDecode, hhigh, hlow, hself]

theorem percentDecode_percentBytes (bytes : List UInt8) (rest : List Char)
    : percentDecode (bytes.flatMap percentByte ++ rest) = bytes ++ percentDecode rest := by
  induction bytes with
  | nil => rfl
  | cons b bytes ih =>
    rw [List.flatMap_cons, List.append_assoc, percentDecode_percentByte, ih, List.cons_append]

theorem percentDecode_cons {c : Char} (h : c ≠ '%') (rest : List Char)
    : percentDecode (c :: rest) = String.utf8EncodeChar c ++ percentDecode rest := by
  rw [percentDecode]
  intro a b rest' hc
  contradiction

/-! ### Encoded texts -/

variable {escaped : Char → Bool} {c : Char} {cs ds : List Char}

theorem percentEncode_cons (escaped : Char → Bool) (c : Char) (cs : List Char)
    : percentEncode escaped (c :: cs)
        =
      (if c.toNat < 0x80 && !escaped c then [c]
        else (String.utf8EncodeChar c).flatMap percentByte) ++ percentEncode escaped cs := by
  rfl

theorem percentEncode_append (escaped : Char → Bool) (cs ds : List Char)
    : percentEncode escaped (cs ++ ds) = percentEncode escaped cs ++ percentEncode escaped ds := by
  unfold percentEncode
  exact List.flatMap_append

theorem mem_percentEncode (h : c ∈ percentEncode escaped cs)
    : c ∈ cs ∧ c.toNat < 0x80 ∧ escaped c = false ∨ c ∈ percentChars := by
  obtain ⟨d, hd, hc⟩ := List.mem_flatMap.mp h
  split at hc
  next hstays =>
    obtain rfl := List.mem_singleton.mp hc
    left
    simpa [hd] using hstays
  next =>
    obtain ⟨b, -, hb⟩ := List.mem_flatMap.mp hc
    exact .inr (mem_percentByte hb)

theorem percentDecode_percentEncode_append (h : '%' ∈ cs → escaped '%' = true) (rest : List Char)
    : percentDecode (percentEncode escaped cs ++ rest) = utf8 cs ++ percentDecode rest := by
  induction cs with
  | nil => rfl
  | cons c cs ih =>
    have ih := ih fun hmem => h (List.mem_cons_of_mem c hmem)
    rw [percentEncode_cons, List.append_assoc]
    change _ = String.utf8EncodeChar c ++ utf8 cs ++ percentDecode rest
    rw [List.append_assoc, ← ih]
    split
    next hstays =>
      have hc : c ≠ '%' := by
        rintro rfl
        simp [h List.mem_cons_self] at hstays
      exact percentDecode_cons hc _
    next => exact percentDecode_percentBytes _ _

theorem percentDecode_percentEncode (h : '%' ∈ cs → escaped '%' = true)
    : percentDecode (percentEncode escaped cs) = utf8 cs := by
  have := percentDecode_percentEncode_append h []
  simpa [percentDecode] using this

theorem percentEncode_injective (h : escaped '%' = true)
    (heq : percentEncode escaped cs = percentEncode escaped ds)
    : cs = ds := by
  have hdecoded : ∀ cs, percentDecode (percentEncode escaped cs) = utf8 cs := by
    intro cs
    exact percentDecode_percentEncode fun _ => h
  apply utf8_injective
  rw [← hdecoded cs, heq, hdecoded ds]

theorem one_lt_length_percentBytes (c : Char)
    : 1 < ((String.utf8EncodeChar c).flatMap percentByte).length := by
  have hlength := String.length_utf8EncodeChar c
  cases hbytes : String.utf8EncodeChar c with
  | nil =>
    rw [hbytes, List.length_nil] at hlength
    exact absurd hlength (Nat.ne_of_lt c.utf8Size_pos)
  | cons b bytes =>
    rw [List.flatMap_cons, List.length_append, percentByte_eq]
    simp only [List.length_cons]
    omega

theorem length_le_length_percentEncode (escaped : Char → Bool) (cs : List Char)
    : cs.length ≤ (percentEncode escaped cs).length := by
  induction cs with
  | nil => exact Nat.le_refl 0
  | cons c cs ih =>
    have hbytes := one_lt_length_percentBytes c
    rw [percentEncode_cons, List.length_append, List.length_cons]
    split
    next =>
      rw [List.length_singleton]
      omega
    next => omega

/-- A text is written as it is exactly if all its characters are ASCII and none needs an escape. -/
theorem percentEncode_eq_self_iff
    : percentEncode escaped cs = cs ↔ ∀ c ∈ cs, c.toNat < 0x80 ∧ escaped c = false := by
  induction cs with
  | nil => simp [percentEncode]
  | cons c cs ih =>
    rw [percentEncode_cons, List.forall_mem_cons, ← ih]
    split
    next hstays => simp_all
    next hstays =>
      constructor
      . intro heq
        have hlength := congrArg List.length heq
        have hbytes := one_lt_length_percentBytes c
        have hrest := length_le_length_percentEncode escaped cs
        rw [List.length_append, List.length_cons] at hlength
        omega
      . rintro ⟨h, -⟩
        simp [h] at hstays

/-! ### The ends of an encoded text -/

theorem percentEncode_singleton_ne_nil (escaped : Char → Bool) (c : Char)
    : percentEncode escaped [c] ≠ [] := by
  rw [← List.length_pos_iff]
  exact length_le_length_percentEncode escaped [c]

theorem mem_percentEncode_singleton {d : Char} (h : c ∈ percentEncode escaped [d])
    : c = d ∨ c ∈ percentChars := by
  rcases mem_percentEncode h with ⟨hc, _⟩ | hc
  . exact .inl (List.mem_singleton.mp hc)
  . exact .inr hc

theorem mem_head?_percentEncode (h : c ∈ (percentEncode escaped cs).head?)
    : c ∈ cs.head? ∨ c ∈ percentChars := by
  cases cs with
  | nil => contradiction
  | cons d cs =>
    rw [← List.singleton_append, percentEncode_append] at h
    rw [List.head?_append_of_ne_nil _ (percentEncode_singleton_ne_nil escaped d)] at h
    rcases mem_percentEncode_singleton (List.mem_of_mem_head? h) with rfl | hc
    . exact .inl rfl
    . exact .inr hc

theorem mem_getLast?_percentEncode (h : c ∈ (percentEncode escaped cs).getLast?)
    : c ∈ cs.getLast? ∨ c ∈ percentChars := by
  cases cs using List.reverseRecOn with
  | nil => contradiction
  | append_singleton cs d =>
    rw [percentEncode_append] at h
    rw [List.getLast?_append_of_ne_nil _ (percentEncode_singleton_ne_nil escaped d)] at h
    rcases mem_percentEncode_singleton (List.mem_of_mem_getLast? h) with rfl | hc
    . exact .inl List.getLast?_concat
    . exact .inr hc

end Text
end ChatTelemetry
