import ChatTelemetry.Double.Layout
/-!
JSON trees.

An object is a list of fields. Reading keeps the fields as they stand in the text; `Value.canonical`
sorts them by key and keeps the last of each key, which is the form that every tree handed on has.
-/

namespace ChatTelemetry.Json

/--
A JSON tree; an integer and a double are different values even where they are equal as numbers.
-/
inductive Value
  | null
  | bool (b : Bool)
  | int (n : Int)
  | double (x : Double)
  | string (s : String)
  | array (items : List Value)
  | object (fields : List (String × Value))
deriving Inhabited, Repr

namespace Value

/-- Puts a field at its place in the order of keys, in the stead of one of the same key. -/
def insertField (key : String) (v : Value) : List (String × Value) → List (String × Value)
  | [] => [(key, v)]
  | (k, w) :: rest =>
    if key < k then (key, v) :: (k, w) :: rest
    else if key = k then (key, v) :: rest
    else (k, w) :: insertField key v rest

/-- Fields sorted by key; of a repeated key the last one stays. -/
def sortFields (fields : List (String × Value)) : List (String × Value) :=
  fields.foldl (fun sorted (key, v) => insertField key v sorted) []

def ofFields (fields : List (String × Value)) : Value :=
  .object (sortFields fields)

/-- The text, or null if there is none. -/
def ofText? : Option String → Value
  | none => .null
  | some s => .string s

/-- The first field with this key. -/
def get? (v : Value) (key : String) : Option Value :=
  match v with
  | .object fields => fields.lookup key
  | _ => none

mutual

/-- The tree with the fields of every object sorted by key, the last of each key kept. -/
def canonical : Value → Value
  | .array items => .array (canonicalItems items)
  | .object fields => ofFields (canonicalFields fields)
  | v => v

def canonicalItems : List Value → List Value
  | [] => []
  | v :: rest => canonical v :: canonicalItems rest

def canonicalFields : List (String × Value) → List (String × Value)
  | [] => []
  | (key, v) :: rest => (key, canonical v) :: canonicalFields rest

end

mutual

/-- Equality of trees; doubles are compared as numbers. -/
def same : Value → Value → Bool
  | .null, .null => true
  | .bool a, .bool b => a == b
  | .int m, .int n => m == n
  | .double x, .double y => x.same y
  | .string s, .string t => s == t
  | .array xs, .array ys => sameItems xs ys
  | .object xs, .object ys => sameFields xs ys
  | _, _ => false

def sameItems : List Value → List Value → Bool
  | [], [] => true
  | v :: vs, w :: ws => same v w && sameItems vs ws
  | _, _ => false

def sameFields : List (String × Value) → List (String × Value) → Bool
  | [], [] => true
  | (j, v) :: vs, (k, w) :: ws => j == k && same v w && sameFields vs ws
  | _, _ => false

end

instance : BEq Value := ⟨same⟩

end Value
end ChatTelemetry.Json
