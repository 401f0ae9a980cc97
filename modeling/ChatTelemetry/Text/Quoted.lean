import ChatTelemetry.Text.Hex
import ChatTelemetry.Text.Mark
import ChatTelemetry.Text.Printable
/-!
Quoted text for diagnostics: what cannot be shown as it is appears as an escape.
-/

namespace ChatTelemetry.Text

/-- The digits of a number in base sixteen without leading zeros. -/
def shortHex (n : Nat) : List Char :=
  Nat.toDigits 16 n

def quotedChar (c : Char) : List Char :=
  match c with
  | '\x00' => ['\\', '0']
  | '\t' => ['\\', 't']
  | '\r' => ['\\', 'r']
  | '\n' => ['\\', 'n']
  | '\\' => ['\\', '\\']
  | '"' => ['\\', '"']
  | c =>
    if isExtending c || !isPrintable c then '\\' :: 'u' :: '{' :: (shortHex c.toNat ++ ['}'])
    else [c]

def quoted (s : String) : String :=
  .ofList ('"' :: (s.toList.flatMap quotedChar ++ ['"']))

end ChatTelemetry.Text
