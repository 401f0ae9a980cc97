import ChatTelemetry.Json.Printer
import ChatTelemetry.Telemetry.Event
/-!
Events as log records, whose values know no null.
-/

namespace ChatTelemetry.Telemetry

open Json (Value)

inductive AnyValue
  | int (n : Int)
  | double (x : Double)
  | text (s : String)
  | bool (b : Bool)
  | list (items : List AnyValue)
  | map (fields : List (String × AnyValue))
deriving Repr, Inhabited

namespace AnyValue

def maxInt : Int := Nat.pow 2 63 - 1

mutual

/--
A tree as a value of a log record: nulls are left out at every depth, and null itself has no value.
-/
def ofJson? : Value → Option AnyValue
  | .null => none
  | .bool b => some (.bool b)
  | .int n => some (if n ≤ maxInt then .int n else .double (.ofInt n))
  | .double x => some (.double x)
  | .string s => some (.text s)
  | .array items => some (.list (ofItems items))
  | .object fields => some (.map (ofFields fields))

def ofItems : List Value → List AnyValue
  | [] => []
  | v :: rest =>
    match ofJson? v with
    | none => ofItems rest
    | some a => a :: ofItems rest

def ofFields : List (String × Value) → List (String × AnyValue)
  | [] => []
  | (key, v) :: rest =>
    match ofJson? v with
    | none => ofFields rest
    | some a => (key, a) :: ofFields rest

end

/-- Numbers within an array of attributes are written without an exponent. -/
def attributeNumberLayout : NumberLayout where
  tie := .up
  positional := fun _ => true
  wholeMark := []

def doubleText (x : Double) : String :=
  if x.isNaN then "NaN"
  else if x.isInfinite then (if x.negative then "-inf" else "inf")
  else .ofList (attributeNumberLayout.finiteText x)

def bracketed (items : List String) : String :=
  "[" ++ ",".intercalate items ++ "]"

/-- An attribute's value; an array becomes a text. -/
def ofAttribute : AttributeValue → AnyValue
  | .bool b => .bool b
  | .int n => .int n
  | .double x => .double x
  | .text s => .text s
  | .bools bs => .text (bracketed (bs.map fun b => if b then "true" else "false"))
  | .ints ns => .text (bracketed (ns.map fun n => .ofList (Json.intChars n)))
  | .doubles xs => .text (bracketed (xs.map doubleText))
  | .texts ss => .text (bracketed (ss.map fun s => "\"" ++ s ++ "\""))

end AnyValue

/-- A log record; its two timestamps are both the time of writing. -/
structure Record where
  eventName : String
  severity : Nat
  severityText : String
  attributes : List (String × AnyValue)
  body : Option AnyValue
deriving Repr, Inhabited

def Event.toRecord (e : Event) : Record where
  eventName := e.name
  severity := 9
  severityText := "INFO"
  attributes := e.attributes.map fun a => (a.key, .ofAttribute a.value)
  body := e.body.bind AnyValue.ofJson?

end ChatTelemetry.Telemetry
