import ChatTelemetry.Json.Value
import ChatTelemetry.Log.Filter
import ChatTelemetry.Text.Quoted
/-!
Log events as lines, and the subscriber of a process that writes them. The time that begins a line
is left out.
-/

namespace ChatTelemetry.Log

open Json (Value)

/-- A field's value after its name. -/
def FieldValue.lineText : FieldValue → String
  | quoted s => Text.quoted s
  | v => v.text

def Event.lineText (e : Event) : String :=
  e.level.name ++ " " ++ e.target ++ ": " ++ e.message ++
    .join (e.fields.map fun (name, v) => " " ++ name ++ "=" ++ v.lineText)

def FieldValue.toJson : FieldValue → Value
  | count n => .int n
  | v => .string v.text

/-- The event as a line for programs; the message is one of its fields. -/
def Event.toJson (e : Event) : Value :=
  .ofFields
    [ ("level", .string e.level.name), ("target", .string e.target),
      ("fields", .ofFields
        (("message", .string e.message) :: e.fields.map fun (name, v) => (name, v.toJson))) ]

inductive Line
  | text (s : String)
  | json (v : Value)
deriving Repr, Inhabited

structure Subscriber where
  filter : Filter
  isJson : Bool
deriving DecidableEq, Repr, Inhabited

namespace Subscriber

/-- The lines of log events, without those that are not let through. -/
def lines (s : Subscriber) (events : List Event) : List Line :=
  (events.filter s.filter.admits).map fun e => if s.isJson then .json e.toJson else .text e.lineText

/-- Why there is no place for a subscriber. -/
def installFailure : String :=
  "failed to install log subscriber: a global default trace dispatcher has already been set"

/-- The subscriber of a process once `s` has been installed, of which there is at most one. -/
def install (s : Subscriber) : Option Subscriber → Except String Subscriber
  | none => .ok s
  | some _ => .error installFailure

end Subscriber
end ChatTelemetry.Log
