/-!
Who speaks, and why the model stopped.
-/

namespace ChatTelemetry.Chat

/-- The author of a message; a role outside the four is kept as the provider named it. -/
inductive Role
  | system
  | user
  | assistant
  | tool
  | other (raw : String)
deriving DecidableEq, Repr, Inhabited

/-- The role of an author that the provider left out or that is not recognized. -/
def Role.unrecognized : Role := .other ""

def Role.text : Role → String
  | system => "system"
  | user => "user"
  | assistant => "assistant"
  | tool => "tool"
  | other raw => raw

/-- Why generation stopped; a reason outside the five is kept as the provider named it. -/
inductive FinishReason
  | stop
  | length
  | contentFilter
  | toolCall
  | error
  | other (raw : String)
deriving DecidableEq, Repr, Inhabited

/-- The reason of a candidate that reports none. -/
def FinishReason.absent : FinishReason := .other ""

def FinishReason.text : FinishReason → String
  | stop => "stop"
  | length => "length"
  | contentFilter => "content_filter"
  | toolCall => "tool_call"
  | error => "error"
  | other raw => raw

end ChatTelemetry.Chat
