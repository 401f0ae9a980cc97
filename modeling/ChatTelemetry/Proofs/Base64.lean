import ChatTelemetry.Base64
import Mathlib.Logic.Basic

/-!
This module shows that bytes can be read back from their base64 text.
-/

namespace ChatTelemetry.Base64

theorem value?_digit {n : Nat} (h : n < 64) : value? (digit n) = some n := by
  revert n
  decide

theorem digit_ne_padding {n : Nat} (h : n < 64) : digit n ≠ '=' := by
  revert n
  decide

theorem ofNat_eq_of_eq_toNat {n : Nat} {byte : UInt8} (h : n = byte.toNat)
    : UInt8.ofNat n = byte := by
  rw [h, UInt8.ofNat_toNat]

/-! ### The last group -/

theorem decodeLast?_one (a : UInt8)
    : decodeLast? (digit (a.toNat / 4)) (digit (a.toNat % 4 * 16)) '=' '=' = some [a] := by
  have ha := a.toNat_lt
  have hbyte := ofNat_eq_of_eq_toNat
    (show a.toNat / 4 * 4 + a.toNat % 4 * 16 / 16 = a.toNat by omega)
  unfold decodeLast?
  rw [value?_digit (show a.toNat / 4 < 64 by omega)]
  rw [value?_digit (show a.toNat % 4 * 16 < 64 by omega)]
  dsimp only [Option.bind_eq_bind, Option.bind]
  rw [if_pos rfl, if_pos (by simp), hbyte]

theorem decodeLast?_two (a b : UInt8)
    : decodeLast? (digit (a.toNat / 4)) (digit (a.toNat % 4 * 16 + b.toNat / 16))
        (digit (b.toNat % 16 * 4)) '=' = some [a, b] := by
  have ha := a.toNat_lt
  have hb := b.toNat_lt
  have hfirst := ofNat_eq_of_eq_toNat
    (show a.toNat / 4 * 4 + (a.toNat % 4 * 16 + b.toNat / 16) / 16 = a.toNat by omega)
  have hsecond := ofNat_eq_of_eq_toNat
    (show (a.toNat % 4 * 16 + b.toNat / 16) % 16 * 16 + b.toNat % 16 * 4 / 4 = b.toNat by omega)
  unfold decodeLast?
  rw [value?_digit (show a.toNat / 4 < 64 by omega)]
  rw [value?_digit (show a.toNat % 4 * 16 + b.toNat / 16 < 64 by omega)]
  rw [value?_digit (show b.toNat % 16 * 4 < 64 by omega)]
  dsimp only [Option.bind_eq_bind, Option.bind]
  rw [if_neg (digit_ne_padding (by omega)), if_pos rfl, if_pos (by omega), hfirst, hsecond]

/-! ### Whole groups -/

section Group

variable (a b c : UInt8)

theorem ofNat_first
    : UInt8.ofNat (a.toNat / 4 * 4 + (a.toNat % 4 * 16 + b.toNat / 16) / 16) = a := by
  have hb := b.toNat_lt
  apply ofNat_eq_of_eq_toNat
  omega

theorem ofNat_second
    : UInt8.ofNat ((a.toNat % 4 * 16 + b.toNat / 16) % 16 * 16 +
        (b.toNat % 16 * 4 + c.toNat / 64) / 4) = b := by
  have hb := b.toNat_lt
  have hc := c.toNat_lt
  apply ofNat_eq_of_eq_toNat
  omega

theorem ofNat_third
    : UInt8.ofNat ((b.toNat % 16 * 4 + c.toNat / 64) % 4 * 64 + c.toNat % 64) = c := by
  have hc := c.toNat_lt
  apply ofNat_eq_of_eq_toNat
  omega

theorem decode?_group {rest : List UInt8} (h : decode? (encode rest) = some rest)
    : decode? (encode (a :: b :: c :: rest)) = some (a :: b :: c :: rest) := by
  have ha := a.toNat_lt
  have hb := b.toNat_lt
  have hc := c.toNat_lt
  have h₁ := value?_digit (show a.toNat / 4 < 64 by omega)
  have h₂ := value?_digit (show a.toNat % 4 * 16 + b.toNat / 16 < 64 by omega)
  have h₃ := value?_digit (show b.toNat % 16 * 4 + c.toNat / 64 < 64 by omega)
  have h₄ := value?_digit (show c.toNat % 64 < 64 by omega)
  rw [encode]
  cases hrest : encode rest with
  | nil =>
    rw [hrest] at h
    obtain rfl : [] = rest := Option.some.inj h
    unfold decode? decodeLast?
    rw [h₁, h₂, h₃, h₄]
    dsimp only [Option.bind_eq_bind, Option.bind]
    rw [if_neg (digit_ne_padding (by omega)), if_neg (digit_ne_padding (by omega))]
    rw [ofNat_first, ofNat_second, ofNat_third]
  | cons d ds =>
    rw [hrest] at h
    rw [decode?, h₁, h₂, h₃, h₄, h]
    . dsimp only [Option.bind_eq_bind, Option.bind, Option.pure_def]
      rw [ofNat_first, ofNat_second, ofNat_third]
    . simp

end Group

theorem decode?_encode (bytes : List UInt8) : decode? (encode bytes) = some bytes := by
  fun_induction encode bytes with
  | case1 => rfl
  | case2 a => exact decodeLast?_one a
  | case3 a b => exact decodeLast?_two a b
  | case4 a b c rest ih => exact decode?_group a b c ih

theorem encode_injective : Function.Injective encode := by
  intro as bs h
  apply Option.some.inj
  rw [← decode?_encode as, ← decode?_encode bs, h]

end ChatTelemetry.Base64
