/-!
The library's own log events.
-/

namespace ChatTelemetry.Log

inductive Level
  | error
  | warn
  | info
  | debug
  | trace
deriving DecidableEq, Repr, Inhabited

def Level.name : Level → String
  | error => "ERROR"
  | warn => "WARN"
  | info => "INFO"
  | debug => "DEBUG"
  | trace => "TRACE"

/-- How much a level lets through: each level lets through all before it. -/
def Level.verbosity : Level → Nat
  | error => 1
  | warn => 2
  | info => 3
  | debug => 4
  | trace => 5

inductive FieldValue
  | quoted (s : String)
  | shown (s : String)
  | count (n : Nat)
deriving DecidableEq, Repr, Inhabited

def FieldValue.text : FieldValue → String
  | quoted s => s
  | shown s => s
  | count n => .ofList (Nat.toDigits 10 n)

structure Event where
  level : Level
  target : String
  message : String
  fields : List (String × FieldValue)
deriving DecidableEq, Repr, Inhabited

end ChatTelemetry.Log
