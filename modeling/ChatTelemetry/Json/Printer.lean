import ChatTelemetry.Json.Value
import ChatTelemetry.Text.Hex
/-!
Compact JSON text.
-/

namespace ChatTelemetry.Json

/-- Numbers keep a mark of being doubles, and an exponent appears below `-5` and from `16` on. -/
def numberLayout : NumberLayout where
  tie := .toEven
  positional := fun exponent => -5 ≤ exponent && exponent < 16
  wholeMark := ['.', '0']

def escapedChar (c : Char) : List Char :=
  match c with
  | '"' => ['\\', '"']
  | '\\' => ['\\', '\\']
  | '\x08' => ['\\', 'b']
  | '\x0c' => ['\\', 'f']
  | '\n' => ['\\', 'n']
  | '\r' => ['\\', 'r']
  | '\t' => ['\\', 't']
  | c => if c.toNat < 0x20 then '\\' :: 'u' :: Text.hexDigits 4 c.toNat else [c]

def stringChars (s : String) : List Char :=
  '"' :: (s.toList.flatMap escapedChar ++ ['"'])

def intChars (n : Int) : List Char :=
  if n < 0 then '-' :: Nat.toDigits 10 n.natAbs else Nat.toDigits 10 n.natAbs

def doubleChars (x : Double) : List Char :=
  numberLayout.finiteText x

namespace Value

mutual

/-- The compact text of a tree, as characters. -/
def chars : Value → List Char
  | .null => ['n', 'u', 'l', 'l']
  | .bool true => ['t', 'r', 'u', 'e']
  | .bool false => ['f', 'a', 'l', 's', 'e']
  | .int n => intChars n
  | .double x => doubleChars x
  | .string s => stringChars s
  | .array items => '[' :: itemsChars items
  | .object fields => '{' :: fieldsChars fields

def itemsChars : List Value → List Char
  | [] => [']']
  | [v] => chars v ++ [']']
  | v :: rest => chars v ++ ',' :: itemsChars rest

def fieldsChars : List (String × Value) → List Char
  | [] => ['}']
  | [(key, v)] => stringChars key ++ ':' :: (chars v ++ ['}'])
  | (key, v) :: rest => stringChars key ++ ':' :: (chars v ++ ',' :: fieldsChars rest)

end

def text (v : Value) : String :=
  .ofList v.chars

end Value
end ChatTelemetry.Json
