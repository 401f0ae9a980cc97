import ChatTelemetry.Proofs.Base64
import Mathlib.Algebra.BigOperators.Group.List.Basic
import Mathlib.Data.List.Basic
import Mathlib.Tactic.SplitIfs

/-!
This module states the rule of base64 by the bits of a text and shows that the texts which are read
are those that follow it, each as the bytes whose only text it is.
-/

namespace ChatTelemetry.Base64

/-! ### Bits -/

/-- The last `width` bits of a number, the highest first. -/
def bits : (width n : Nat) → List Bool
  | 0, _ => []
  | width + 1, n => bits width (n / 2) ++ [n % 2 == 1]

@[simp]
theorem length_bits (width n : Nat) : (bits width n).length = width := by
  induction width generalizing n with
  | zero => rfl
  | succ width ih => simp [bits, ih]

theorem bits_eq_iff {width m n : Nat}
    : bits width m = bits width n ↔ m % 2 ^ width = n % 2 ^ width := by
  induction width generalizing m n with
  | zero => simp [bits, Nat.mod_one]
  | succ width ih =>
    have hlast : (m % 2 == 1) = (n % 2 == 1) ↔ m % 2 = n % 2 := by
      rw [Bool.eq_iff_iff, beq_iff_eq, beq_iff_eq]
      omega
    have hsplit : bits (width + 1) m = bits (width + 1) n ↔
        m / 2 % 2 ^ width = n / 2 % 2 ^ width ∧ m % 2 = n % 2 := by
      simp [bits, ih, hlast]
    rw [hsplit, Nat.pow_succ', Nat.mod_mul, Nat.mod_mul]
    omega

theorem bits_add (high low n : Nat)
    : bits (high + low) n = bits high (n / 2 ^ low) ++ bits low n := by
  induction low generalizing n with
  | zero => simp [bits]
  | succ low ih =>
    rw [← Nat.add_assoc, bits, bits, ih, Nat.div_div_eq_div_mul, ← Nat.pow_succ',
      List.append_assoc]

/-- The last bits of a number before all bits of another. -/
theorem bits_join (high low m : Nat) {n : Nat} (h : n < 2 ^ low)
    : bits (high + low) (m % 2 ^ high * 2 ^ low + n) = bits high m ++ bits low n := by
  have hhigh : (m % 2 ^ high * 2 ^ low + n) / 2 ^ low = m % 2 ^ high := by
    rw [Nat.add_comm, Nat.add_mul_div_right _ _ (Nat.two_pow_pos low), Nat.div_eq_of_lt h,
      Nat.zero_add]
  rw [bits_add, hhigh]
  congr 1
  . rw [bits_eq_iff, Nat.mod_mod]
  . rw [bits_eq_iff, Nat.mul_add_mod_self_right]

theorem bits_zero (width : Nat) : bits width 0 = List.replicate width false := by
  induction width with
  | zero => rfl
  | succ width ih =>
    rw [bits, Nat.zero_div, ih, List.replicate_succ', Nat.zero_mod]
    rfl

theorem bits_pad (high low m : Nat)
    : bits (high + low) (m % 2 ^ high * 2 ^ low) = bits high m ++ List.replicate low false := by
  have hjoin := bits_join high low m (Nat.two_pow_pos low)
  rwa [Nat.add_zero, bits_zero] at hjoin

/-! ### The rule -/

def alphabet : List Char :=
  "ABCDEFGHIJKLMNOPQRSTUVWXYZabcdefghijklmnopqrstuvwxyz0123456789+/".toList

theorem length_alphabet : alphabet.length = 64 := by
  rfl

def letter (n : Fin 64) : Char :=
  alphabet.get (n.cast length_alphabet.symm)

/--
How a text encodes bytes. Six of their bits at a time are the place of a letter in the alphabet,
where zeros fill up the last group, and padding fills up the text to groups of four.
-/
structure Encodes (text : List Char) (bytes : List UInt8) (digits : List (Fin 64))
    (padding zeros : Nat) : Prop where
  text_eq : text = digits.map letter ++ List.replicate padding '='
  length_mod : text.length % 4 = 0
  padding_lt : padding < 4
  bits_eq : digits.flatMap (fun n : Fin 64 => bits 6 n)
    = bytes.flatMap (fun byte => bits 8 byte.toNat) ++ List.replicate zeros false
  zeros_lt : zeros < 6

def IsEncodingOf (text : List Char) (bytes : List UInt8) : Prop :=
  ∃ digits padding zeros, Encodes text bytes digits padding zeros

theorem letter_eq_digit (n : Fin 64) : letter n = digit n := by
  revert n
  decide

/-! ### Texts are unique -/

theorem length_flatMap_bits {f : α → Nat} (width : Nat) (as : List α)
    : (as.flatMap fun a => bits width (f a)).length = as.length * width := by
  simp [List.length_flatMap]

theorem eq_of_flatMap_bits_eq {ms ns : List (Fin 64)}
    (h : ms.flatMap (fun n : Fin 64 => bits 6 n) = ns.flatMap (fun n : Fin 64 => bits 6 n))
    : ms = ns := by
  induction ms generalizing ns with
  | nil =>
    cases ns with
    | nil => rfl
    | cons n ns => simp [bits] at h
  | cons m ms ih =>
    cases ns with
    | nil => simp [bits] at h
    | cons n ns =>
      rw [List.flatMap_cons, List.flatMap_cons] at h
      obtain ⟨hhead, htail⟩ := List.append_inj h (by simp)
      obtain rfl : m = n := by
        rw [bits_eq_iff] at hhead
        omega
      rw [ih htail]

namespace Encodes

variable {text text' : List Char} {bytes : List UInt8} {digits digits' : List (Fin 64)}
  {padding padding' zeros zeros' : Nat}

theorem length_digits (h : Encodes text bytes digits padding zeros)
    : digits.length * 6 = bytes.length * 8 + zeros := by
  rw [← length_flatMap_bits 6 digits, h.bits_eq, List.length_append, length_flatMap_bits,
    List.length_replicate]

theorem length_text (h : Encodes text bytes digits padding zeros)
    : (digits.length + padding) % 4 = 0 := by
  have hlength := h.length_mod
  rwa [h.text_eq, List.length_append, List.length_map, List.length_replicate] at hlength

theorem text_unique (h : Encodes text bytes digits padding zeros)
    (h' : Encodes text' bytes digits' padding' zeros')
    : text = text' := by
  have hdigits := h.length_digits
  have hdigits' := h'.length_digits
  have hzeros := h.zeros_lt
  have hzeros' := h'.zeros_lt
  -- Neither zeros nor padding fill up a whole group, so that the lengths leave one choice of both.
  obtain rfl : zeros = zeros' := by omega
  obtain rfl : digits = digits' := eq_of_flatMap_bits_eq (h.bits_eq.trans h'.bits_eq.symm)
  have htext := h.length_text
  have htext' := h'.length_text
  have hpadding := h.padding_lt
  have hpadding' := h'.padding_lt
  obtain rfl : padding = padding' := by omega
  rw [h.text_eq, h'.text_eq]

end Encodes

/-! ### What is written follows the rule -/

section Bytes

variable (a b c : UInt8)

-- The last bits of one byte and the first ones of the next have a letter together.

theorem bits_first : bits 8 a.toNat = bits 6 (a.toNat / 4) ++ bits 2 a.toNat :=
  bits_add 6 2 a.toNat

theorem bits_second : bits 8 b.toNat = bits 4 (b.toNat / 16) ++ bits 4 b.toNat :=
  bits_add 4 4 b.toNat

theorem bits_third : bits 8 c.toNat = bits 2 (c.toNat / 64) ++ bits 6 c.toNat :=
  bits_add 2 6 c.toNat

theorem bits_first_second
    : bits 6 (a.toNat % 4 * 16 + b.toNat / 16) = bits 2 a.toNat ++ bits 4 (b.toNat / 16) := by
  have hb := b.toNat_lt
  exact bits_join 2 4 a.toNat (show b.toNat / 16 < 16 by omega)

theorem bits_second_third
    : bits 6 (b.toNat % 16 * 4 + c.toNat / 64) = bits 4 b.toNat ++ bits 2 (c.toNat / 64) := by
  have hc := c.toNat_lt
  exact bits_join 4 2 b.toNat (show c.toNat / 64 < 4 by omega)

theorem bits_encode_one
    : bits 6 (a.toNat / 4) ++ bits 6 (a.toNat % 4 * 16)
        =
      bits 8 a.toNat ++ List.replicate 4 false := by
  have hend : bits 6 (a.toNat % 4 * 16) = bits 2 a.toNat ++ List.replicate 4 false :=
    bits_pad 2 4 a.toNat
  rw [bits_first, hend, List.append_assoc]

theorem bits_encode_two
    : bits 6 (a.toNat / 4) ++ (bits 6 (a.toNat % 4 * 16 + b.toNat / 16) ++
        bits 6 (b.toNat % 16 * 4))
        =
      bits 8 a.toNat ++ (bits 8 b.toNat ++ List.replicate 2 false) := by
  have hend : bits 6 (b.toNat % 16 * 4) = bits 4 b.toNat ++ List.replicate 2 false :=
    bits_pad 4 2 b.toNat
  rw [bits_first, bits_first_second, bits_second, hend]
  simp only [List.append_assoc]

theorem bits_encode_three
    : bits 6 (a.toNat / 4) ++ (bits 6 (a.toNat % 4 * 16 + b.toNat / 16) ++
        (bits 6 (b.toNat % 16 * 4 + c.toNat / 64) ++ bits 6 (c.toNat % 64)))
        =
      bits 8 a.toNat ++ (bits 8 b.toNat ++ bits 8 c.toNat) := by
  have hlast : bits 6 (c.toNat % 64) = bits 6 c.toNat := bits_eq_iff.mpr (Nat.mod_mod _ _)
  rw [bits_first, bits_first_second, bits_second, bits_second_third, bits_third, hlast]
  simp only [List.append_assoc]

end Bytes

theorem isEncodingOf_encode (bytes : List UInt8) : IsEncodingOf (encode bytes) bytes := by
  fun_induction encode bytes with
  | case1 => exact ⟨[], 0, 0, by constructor <;> decide⟩
  | case2 a =>
    have ha := a.toNat_lt
    refine ⟨[⟨a.toNat / 4, by omega⟩, ⟨a.toNat % 4 * 16, by omega⟩], 2, 4, ?_⟩
    constructor
    . simp [letter_eq_digit, List.replicate]
    . simp
    . decide
    . simpa using bits_encode_one a
    . decide
  | case3 a b =>
    have ha := a.toNat_lt
    have hb := b.toNat_lt
    refine ⟨[⟨a.toNat / 4, by omega⟩, ⟨a.toNat % 4 * 16 + b.toNat / 16, by omega⟩,
      ⟨b.toNat % 16 * 4, by omega⟩], 1, 2, ?_⟩
    constructor
    . simp [letter_eq_digit]
    . simp
    . decide
    . simpa using bits_encode_two a b
    . decide
  | case4 a b c rest ih =>
    have ha := a.toNat_lt
    have hb := b.toNat_lt
    have hc := c.toNat_lt
    obtain ⟨digits, padding, zeros, h⟩ := ih
    refine ⟨⟨a.toNat / 4, by omega⟩ :: ⟨a.toNat % 4 * 16 + b.toNat / 16, by omega⟩ ::
      ⟨b.toNat % 16 * 4 + c.toNat / 64, by omega⟩ :: ⟨c.toNat % 64, by omega⟩ :: digits,
      padding, zeros, ?_⟩
    constructor
    . simp [letter_eq_digit, ← h.text_eq]
    . have hlength := h.length_mod
      simp only [List.length_cons]
      omega
    . exact h.padding_lt
    . have hgroup := congrArg (· ++ digits.flatMap fun n : Fin 64 => bits 6 n)
        (bits_encode_three a b c)
      simpa [h.bits_eq] using hgroup
    . exact h.zeros_lt

theorem isEncodingOf_iff {text : List Char} {bytes : List UInt8}
    : IsEncodingOf text bytes ↔ text = encode bytes := by
  obtain ⟨digits, padding, zeros, hencode⟩ := isEncodingOf_encode bytes
  constructor
  . rintro ⟨_, _, _, h⟩
    exact h.text_unique hencode
  . rintro rfl
    exact ⟨digits, padding, zeros, hencode⟩

/-! ### What is read is what is written -/

theorem toNat_of_between {first last c : Char} (h : (first ≤ c && c ≤ last) = true)
    : first.toNat ≤ c.toNat ∧ c.toNat ≤ last.toNat := by
  rw [Bool.and_eq_true, decide_eq_true_eq, decide_eq_true_eq] at h
  exact h

theorem ofNat_place {first c : Char} (h : first.toNat ≤ c.toNat)
    : Char.ofNat (first.toNat + (c.toNat - first.toNat)) = c := by
  rw [Nat.add_sub_cancel' h, Char.ofNat_toNat]

theorem digit_of_value? {c : Char} {n : Nat} (h : value? c = some n) : n < 64 ∧ digit n = c := by
  have hplaces : 'A'.toNat = 65 ∧ 'Z'.toNat = 90 ∧ 'a'.toNat = 97 ∧ 'z'.toNat = 122 ∧
      '0'.toNat = 48 ∧ '9'.toNat = 57 := by
    decide
  unfold value? at h
  split_ifs at h with hupper hlower hnumber hplus hslash
  . obtain ⟨hfirst, hlast⟩ := toNat_of_between hupper
    obtain rfl := Option.some.inj h
    rw [digit, if_pos (by omega), ofNat_place hfirst]
    exact ⟨by omega, rfl⟩
  . obtain ⟨hfirst, hlast⟩ := toNat_of_between hlower
    obtain rfl := Option.some.inj h
    rw [digit, if_neg (by omega), if_pos (by omega), Nat.add_sub_cancel, ofNat_place hfirst]
    exact ⟨by omega, rfl⟩
  . obtain ⟨hfirst, hlast⟩ := toNat_of_between hnumber
    obtain rfl := Option.some.inj h
    rw [digit, if_neg (by omega), if_neg (by omega), if_pos (by omega)]
    rw [Nat.add_sub_cancel, ofNat_place hfirst]
    exact ⟨by omega, rfl⟩
  . obtain rfl := Option.some.inj h
    exact ⟨by decide, hplus.symm⟩
  . obtain rfl := Option.some.inj h
    exact ⟨by decide, hslash.symm⟩

theorem value?_eq_some_iff {c : Char} {n : Nat} : value? c = some n ↔ n < 64 ∧ digit n = c := by
  constructor
  . exact digit_of_value?
  . rintro ⟨hn, rfl⟩
    exact value?_digit hn

section Digits

variable {k l m n : Nat} (hk : k < 64) (hl : l < 64) (hm : m < 64) (hn : n < 64)

include hk hl in
theorem toNat_first : (UInt8.ofNat (k * 4 + l / 16)).toNat = k * 4 + l / 16 := by
  rw [UInt8.toNat_ofNat']
  omega

include hm in
theorem toNat_second : (UInt8.ofNat (l % 16 * 16 + m / 4)).toNat = l % 16 * 16 + m / 4 := by
  rw [UInt8.toNat_ofNat']
  omega

include hn in
theorem toNat_third : (UInt8.ofNat (m % 4 * 64 + n)).toNat = m % 4 * 64 + n := by
  rw [UInt8.toNat_ofNat']
  omega

include hk hl in
theorem encode_one (hrest : l % 16 = 0)
    : encode [.ofNat (k * 4 + l / 16)] = [digit k, digit l, '=', '='] := by
  rw [encode, toNat_first hk hl]
  rw [show (k * 4 + l / 16) / 4 = k by omega]
  rw [show (k * 4 + l / 16) % 4 * 16 = l by omega]

include hk hl hm in
theorem encode_two (hrest : m % 4 = 0)
    : encode [.ofNat (k * 4 + l / 16), .ofNat (l % 16 * 16 + m / 4)]
        = [digit k, digit l, digit m, '='] := by
  rw [encode, toNat_first hk hl, toNat_second hm]
  rw [show (k * 4 + l / 16) / 4 = k by omega]
  rw [show (k * 4 + l / 16) % 4 * 16 + (l % 16 * 16 + m / 4) / 16 = l by omega]
  rw [show (l % 16 * 16 + m / 4) % 16 * 4 = m by omega]

include hk hl hm hn in
theorem encode_group (rest : List UInt8)
    : encode (.ofNat (k * 4 + l / 16) :: .ofNat (l % 16 * 16 + m / 4) :: .ofNat (m % 4 * 64 + n) ::
        rest)
        =
      digit k :: digit l :: digit m :: digit n :: encode rest := by
  rw [encode, toNat_first hk hl, toNat_second hm, toNat_third hn]
  rw [show (k * 4 + l / 16) / 4 = k by omega]
  rw [show (k * 4 + l / 16) % 4 * 16 + (l % 16 * 16 + m / 4) / 16 = l by omega]
  rw [show (l % 16 * 16 + m / 4) % 16 * 4 + (m % 4 * 64 + n) / 64 = m by omega]
  rw [show (m % 4 * 64 + n) % 64 = n by omega]

end Digits

theorem eq_encode_of_decodeLast? {a b c d : Char} {bytes : List UInt8}
    (h : decodeLast? a b c d = some bytes)
    : [a, b, c, d] = encode bytes := by
  unfold decodeLast? at h
  simp only [Option.bind_eq_bind, Option.bind_eq_some_iff, value?_eq_some_iff] at h
  obtain ⟨k, ⟨hk, rfl⟩, l, ⟨hl, rfl⟩, h⟩ := h
  split_ifs at h with hc hd hd
  . obtain ⟨rfl, hrest⟩ : d = '=' ∧ l % 16 = 0 := by simpa using hd
    obtain rfl := Option.some.inj h
    rw [hc, encode_one hk hl hrest]
  . simp only [Option.bind_eq_some_iff, value?_eq_some_iff] at h
    obtain ⟨m, ⟨hm, rfl⟩, h⟩ := h
    split_ifs at h with hrest
    obtain rfl := Option.some.inj h
    rw [hd, encode_two hk hl hm hrest]
  . simp only [Option.bind_eq_some_iff, value?_eq_some_iff] at h
    obtain ⟨m, ⟨hm, rfl⟩, n, ⟨hn, rfl⟩, h⟩ := h
    obtain rfl := Option.some.inj h
    rw [encode_group hk hl hm hn]
    rfl

theorem eq_encode_of_decode? {text : List Char} {bytes : List UInt8}
    (h : decode? text = some bytes)
    : text = encode bytes := by
  fun_induction decode? text generalizing bytes with
  | case1 =>
    obtain rfl := Option.some.inj h
    rfl
  | case2 a b c d => exact eq_encode_of_decodeLast? h
  | case3 a b c d rest _ ih =>
    simp only [Option.bind_eq_bind, Option.bind_eq_some_iff, Option.pure_def,
      value?_eq_some_iff] at h
    obtain ⟨k, ⟨hk, rfl⟩, l, ⟨hl, rfl⟩, m, ⟨hm, rfl⟩, n, ⟨hn, rfl⟩, others, hothers, h⟩ := h
    obtain rfl := Option.some.inj h
    rw [encode_group hk hl hm hn, ih hothers]
  | case4 => cases h

theorem decode?_eq_some_iff {text : List Char} {bytes : List UInt8}
    : decode? text = some bytes ↔ IsEncodingOf text bytes := by
  rw [isEncodingOf_iff]
  constructor
  . exact eq_encode_of_decode?
  . rintro rfl
    exact decode?_encode bytes

theorem decode?_eq_none_iff {text : List Char}
    : decode? text = none ↔ ∀ bytes, ¬IsEncodingOf text bytes := by
  rw [Option.eq_none_iff_forall_ne_some]
  simp only [ne_eq, decode?_eq_some_iff]

/-! ### Texts that are read -/

theorem read_eq_ok_iff {text : String} {bytes : List UInt8}
    : read text = .ok bytes ↔ IsEncodingOf text.toList bytes := by
  rw [← decode?_eq_some_iff, read]
  cases decode? text.toList <;> simp

theorem read_eq_error_iff {text unreadable : String}
    : read text = .error unreadable ↔
        text = unreadable ∧ ∀ bytes, ¬IsEncodingOf text.toList bytes := by
  rw [← decode?_eq_none_iff, read]
  cases decode? text.toList <;> simp

theorem read_eq_error {text : String} (h : ∀ bytes, ¬IsEncodingOf text.toList bytes)
    : read text = .error text :=
  read_eq_error_iff.mpr ⟨rfl, h⟩

end ChatTelemetry.Base64
