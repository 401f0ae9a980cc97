/-!
Why a JSON text could not be read.

A reader takes a text as characters and returns what it has read with the text that is left.
-/

namespace ChatTelemetry.Json

inductive Fault
  | truncated
  /-- The text is no JSON, or a number or a nesting beyond what is read. -/
  | malformed
  | mismatch
deriving DecidableEq, Repr, Inhabited

def isBlank (c : Char) : Bool :=
  c == ' ' || c == '\t' || c == '\n' || c == '\r'

def skipBlanks (cs : List Char) : List Char :=
  cs.dropWhile isBlank

end ChatTelemetry.Json
