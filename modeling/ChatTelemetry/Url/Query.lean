import ChatTelemetry.Text.Percent
/-!
Queries made of pairs of a name and a value.
-/

namespace ChatTelemetry.Url

/-- Letters, digits and four marks stand as they are in a query of pairs. -/
def staysInForm (c : Char) : Bool :=
  ('a' ≤ c && c ≤ 'z') || ('A' ≤ c && c ≤ 'Z') || ('0' ≤ c && c ≤ '9') ||
    c == '*' || c == '-' || c == '.' || c == '_'

/-- A name or a value: blanks become `+`, all else is escaped. -/
def formEncode (cs : List Char) : List Char :=
  cs.flatMap fun c =>
    if c == ' ' then ['+']
    else if staysInForm c then [c]
    else (String.utf8EncodeChar c).flatMap Text.percentByte

/-- The text that a name or a value stands for, as bytes. -/
def formDecode (cs : List Char) : List UInt8 :=
  Text.percentDecode (cs.map fun c => if c == '+' then ' ' else c)

def formQuery : List (List Char × List Char) → List Char
  | [] => []
  | [(name, value)] => formEncode name ++ '=' :: formEncode value
  | (name, value) :: rest => formEncode name ++ '=' :: (formEncode value ++ '&' :: formQuery rest)

end ChatTelemetry.Url
