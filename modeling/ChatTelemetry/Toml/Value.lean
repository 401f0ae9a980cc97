/-!
Trees of configuration documents.
-/

namespace ChatTelemetry.Toml

inductive Value
  | string (s : String)
  | boolean (b : Bool)
  /-- A number or a date, as written. -/
  | scalar (text : String)
  | array (items : List Value)
  | table (fields : List (String × Value))
deriving Repr, Inhabited

end ChatTelemetry.Toml
