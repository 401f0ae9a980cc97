import ChatTelemetry.Text.Hex
import ChatTelemetry.Text.Utf8
/-!
Percent-encoding: a byte as `%` and two digits in base sixteen.
-/

namespace ChatTelemetry.Text

/-- A byte as `%` and two upper-case digits. -/
def percentByte (b : UInt8) : List Char :=
  '%' :: (hexDigits 2 b.toNat).map Char.toUpper

/-- Writes the characters of a class, and all beyond ASCII, as their bytes. -/
def percentEncode (escaped : Char → Bool) (cs : List Char) : List Char :=
  cs.flatMap fun c =>
    if c.toNat < 0x80 && !escaped c then [c] else (String.utf8EncodeChar c).flatMap percentByte

/-- The bytes of a text in which `%` and two digits stand for a byte. -/
def percentDecode : List Char → List UInt8
  | '%' :: a :: b :: rest =>
    match hexValue? a, hexValue? b with
    | some high, some low => .ofNat (16 * high + low) :: percentDecode rest
    | _, _ => 0x25 :: percentDecode (a :: b :: rest)
  | c :: rest => String.utf8EncodeChar c ++ percentDecode rest
  | [] => []

end ChatTelemetry.Text
