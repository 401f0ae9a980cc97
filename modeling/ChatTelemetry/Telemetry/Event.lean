import ChatTelemetry.Json.Value
/-!
Telemetry events and the attributes on them.
-/

namespace ChatTelemetry.Telemetry

open Json (Value)

inductive AttributeValue
  | bool (b : Bool)
  | int (n : Int)
  | double (x : Double)
  | text (s : String)
  | bools (bs : List Bool)
  | ints (ns : List Int)
  | doubles (xs : List Double)
  | texts (ss : List String)
deriving DecidableEq, Repr, Inhabited

structure Attribute where
  key : String
  value : AttributeValue
deriving DecidableEq, Repr, Inhabited

/-- An event; it has no body where content may not be recorded. -/
structure Event where
  name : String
  attributes : List Attribute
  body : Option Value
deriving Repr, Inhabited

/-! ### Names -/

def systemMessageEvent : String := "gen_ai.system.message"
def userMessageEvent : String := "gen_ai.user.message"
def completionDetailsEvent : String := "gen_ai.completion.details"
def choiceEvent : String := "gen_ai.choice"

def inputMessagesKey : String := "gen_ai.input.messages"
def inputMessagesRefKey : String := "gen_ai.input.messages_ref"
def outputMessagesKey : String := "gen_ai.output.messages"
def outputMessagesRefKey : String := "gen_ai.output.messages_ref"
def systemInstructionsKey : String := "gen_ai.system.instructions"
def systemInstructionsRefKey : String := "gen_ai.system.instructions_ref"

def tokenTypeKey : String := "gen_ai.token.type"

end ChatTelemetry.Telemetry
