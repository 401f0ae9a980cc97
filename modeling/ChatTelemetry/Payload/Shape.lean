import ChatTelemetry.Json.Printer
import ChatTelemetry.Json.Reader
import ChatTelemetry.Text.Quoted
/-!
How provider payloads are laid out as JSON, and how they are read by their layout.

A `Shape` is read in two ways: `Shape.ofValue` takes a tree, and `Shape.ofChars` takes the text
itself, without building a tree of what it does not need. Records may be written as objects or,
field by field, as arrays.
-/

namespace ChatTelemetry.Payload

open Json (Value Fault)

mutual

/-- How a value of type `α` is laid out. -/
inductive Shape : Type → Type 1
  | text : Shape String
  /-- A natural below `2 ^ bits`. -/
  | count (bits : Nat) : Shape Nat
  | any : Shape Value
  | optional (inner : Shape α) : Shape (Option α)
  | list (item : Shape α) : Shape (List α)
  | record (name : String) (fields : Fields σ β) (make : β → α) : Shape α
  /-- The first of two layouts that fits. -/
  | either (name : String) (first : Shape β) (second : Shape γ) (ofFirst : β → α)
    (ofSecond : γ → α) : Shape α

/-- The fields of a record: `σ` holds what has been read of them and `β` all of them. -/
inductive Fields : Type → Type → Type 1
  | nil : Fields Unit Unit
  /-- A field may go by a second name; `missing` is its value where it is left out. -/
  | cons (name : String) (secondName : Option String) (shape : Shape α) (missing : Option α)
    (rest : Fields σ β) : Fields (Option α × σ) (α × β)

end

/-- Why a tree does not fit a layout. -/
inductive Mismatch
  | wrongType (found : Value) (expected : String)
  | outOfRange (n : Int) (expected : String)
  | repeated (field : String)
  | missing (field : String)
  | surplus (length : Nat)
  | noAlternative (name : String)
deriving Repr, Inhabited

/-- What a tree is, in the words of an error text. -/
def described : Value → String
  | .null => "null"
  | .bool true => "boolean `true`"
  | .bool false => "boolean `false`"
  | .int n => "integer `" ++ .ofList (Json.intChars n) ++ "`"
  | .double x => "floating point `" ++ .ofList (Json.doubleChars x) ++ "`"
  | .string s => "string " ++ Text.quoted s
  | .array _ => "sequence"
  | .object _ => "map"

def Mismatch.message : Mismatch → String
  | wrongType found expected => "invalid type: " ++ described found ++ ", expected " ++ expected
  | outOfRange n expected =>
    "invalid value: " ++ described (.int n) ++ ", expected " ++ expected
  | repeated field => "duplicate field `" ++ field ++ "`"
  | missing field => "missing field `" ++ field ++ "`"
  | surplus length =>
    "invalid length " ++ .ofList (Nat.toDigits 10 length) ++ ", expected fewer elements in array"
  | noAlternative name => "data did not match any variant of untagged enum " ++ name

/-- The name of the numbers below `2 ^ bits`. -/
def countName (bits : Nat) : String :=
  "u" ++ .ofList (Nat.toDigits 10 bits)

namespace Fields

def optional (name : String) (secondName : Option String) (shape : Shape α) (rest : Fields σ β) :
    Fields (Option (Option α) × σ) (Option α × β) :=
  .cons name secondName (.optional shape) (some none) rest

/-- A field that may be left out, though not null. -/
def list (name : String) (item : Shape α) (rest : Fields σ β) :
    Fields (Option (List α) × σ) (List α × β) :=
  .cons name none (.list item) (some []) rest

def required (name : String) (shape : Shape α) (rest : Fields σ β) :
    Fields (Option α × σ) (α × β) :=
  .cons name none shape none rest

def blank : Fields σ β → σ
  | nil => ()
  | cons _ _ _ _ rest => (none, rest.blank)

def complete : Fields σ β → σ → Except Mismatch β
  | nil, () => .ok ()
  | cons name _ _ missing rest, (slot, slots) => do
    match slot <|> missing with
    | none => .error (.missing name)
    | some a => return (a, ← rest.complete slots)

end Fields

def goesBy (name : String) (secondName : Option String) (key : String) : Bool :=
  key == name || secondName == some key

mutual

def Shape.ofValue : Shape α → Value → Except Mismatch α
  | .text, .string s => .ok s
  | .text, v => .error (.wrongType v "a string")
  | .count bits, .int n =>
    if 0 ≤ n && n < Nat.pow 2 bits then .ok n.toNat else .error (.outOfRange n (countName bits))
  | .count bits, v => .error (.wrongType v (countName bits))
  | .any, v => .ok v.canonical
  | .optional _, .null => .ok none
  | .optional inner, v => some <$> inner.ofValue v
  | .list item, .array vs => vs.mapM fun v => item.ofValue v
  | .list _, v => .error (.wrongType v "a sequence")
  | .record _ fields make, .object members => do
    let slots ← members.foldlM (fun slots (key, v) => fields.assign key v slots) fields.blank
    return make (← fields.complete slots)
  | .record _ fields make, .array vs => do
    let (b, left) ← fields.ofItems vs
    if left.isEmpty then return make b else .error (.surplus vs.length)
  | .record name _ _, v => .error (.wrongType v ("struct " ++ name))
  | .either name first second ofFirst ofSecond, v =>
    match first.ofValue v with
    | .ok b => .ok (ofFirst b)
    | .error _ =>
      match second.ofValue v with
      | .ok c => .ok (ofSecond c)
      | .error _ => .error (.noAlternative name)

/-- Reads the value of a key into its field; other keys are passed over. -/
def Fields.assign : Fields σ β → String → Value → σ → Except Mismatch σ
  | .nil, _, _, () => .ok ()
  | .cons name secondName shape _ rest, key, v, (slot, slots) =>
    if goesBy name secondName key then
      if slot.isSome then .error (.repeated name)
      else do return (some (← shape.ofValue v), slots)
    else do return (slot, ← rest.assign key v slots)

/-- Reads the elements of an array into the fields in order; the elements left over come second. -/
def Fields.ofItems : Fields σ β → List Value → Except Mismatch (β × List Value)
  | .nil, vs => .ok ((), vs)
  | .cons name _ _ missing rest, [] =>
    match missing with
    | none => .error (.missing name)
    | some a => do
      let (b, left) ← rest.ofItems []
      return ((a, b), left)
  | .cons _ _ shape _ rest, v :: vs => do
    let a ← shape.ofValue v
    let (b, left) ← rest.ofItems vs
    return ((a, b), left)

end

def wrongToken (cs : List Char) : Fault :=
  match cs with
  | [] => .truncated
  | '[' :: _ | '{' :: _ => .mismatch
  | cs =>
    match Json.value 0 cs with
    | .error fault => fault
    | .ok _ => .mismatch

/-- The next element of an array in a text, if there is one. -/
def nextElement (isFirst : Bool) (cs : List Char) : Except Fault (Option (List Char)) :=
  match Json.skipBlanks cs with
  | [] => .error .truncated
  | ']' :: _ => .ok none
  | c :: rest =>
    if isFirst then .ok (some (c :: rest))
    else if c = ',' then
      match Json.skipBlanks rest with
      | [] => .error .truncated
      | ']' :: _ => .error .malformed
      | cs => .ok (some cs)
    else .error .malformed

mutual

/-- Reads a text by its layout, arrays and objects nested at most `depth` levels deep. -/
def Shape.ofChars : Shape α → (depth : Nat) → List Char → Except Fault (α × List Char)
  | .text, _, cs =>
    match Json.skipBlanks cs with
    | '"' :: rest => Json.stringBody [] rest
    | cs => .error (wrongToken cs)
  | .count bits, _, cs =>
    match Json.value 0 (Json.skipBlanks cs) with
    | .ok (.int n, rest) =>
      if 0 ≤ n && n < Nat.pow 2 bits then .ok (n.toNat, rest) else .error .mismatch
    | _ => .error (wrongToken (Json.skipBlanks cs))
  | .any, depth, cs => do
    let (v, rest) ← Json.value depth cs
    return (v.canonical, rest)
  | .optional inner, depth, cs =>
    match Json.skipBlanks cs with
    | 'n' :: rest => do return (none, ← Json.restOfName ['u', 'l', 'l'] rest)
    | cs => do
      let (a, rest) ← inner.ofChars depth cs
      return (some a, rest)
  | .list item, depth, cs =>
    match Json.skipBlanks cs with
    | '[' :: rest =>
      match depth with
      | 0 => .error .malformed
      | depth + 1 => do
        let step := fun items cs => do
          let (a, cs) ← item.ofChars depth cs
          return (a :: items, cs)
        let (items, rest) ← Json.elements step [] rest
        return (items.reverse, rest)
    | cs => .error (wrongToken cs)
  | .record _ fields make, depth, cs =>
    match Json.skipBlanks cs with
    | '{' :: rest =>
      match depth with
      | 0 => .error .malformed
      | depth + 1 => do
        let step := fun slots key cs => fields.assignChars depth key cs slots
        let (slots, rest) ← Json.members (Json.stringBody []) step fields.blank rest
        match fields.complete slots with
        | .ok b => return (make b, rest)
        | .error _ => .error .mismatch
    | '[' :: rest =>
      match depth with
      | 0 => .error .malformed
      | depth + 1 => do
        let (b, rest) ← fields.ofElements depth true rest
        return (make b, rest)
    | cs => .error (wrongToken cs)
  | .either name first second ofFirst ofSecond, depth, cs => do
    let (v, rest) ← Json.value depth cs
    match (Shape.either name first second ofFirst ofSecond).ofValue v with
    | .ok a => return (a, rest)
    | .error _ => .error .mismatch

/-- Reads the colon and the value after a key into the key's field; other values are passed over. -/
def Fields.assignChars : Fields σ β → (depth : Nat) → String → List Char → σ →
    Except Fault (σ × List Char)
  | .nil, _, _, cs, () => do return ((), ← Json.skip (← Json.colon cs))
  | .cons name secondName shape _ rest, depth, key, cs, (slot, slots) =>
    if goesBy name secondName key then
      if slot.isSome then .error .mismatch
      else do
        let (a, cs) ← shape.ofChars depth (← Json.colon cs)
        return ((some a, slots), cs)
    else do
      let (slots, cs) ← rest.assignChars depth key cs slots
      return ((slot, slots), cs)

/-- Reads the elements of an array, after its opening bracket, into the fields in order. -/
def Fields.ofElements : Fields σ β → (depth : Nat) → (isFirst : Bool) → List Char →
    Except Fault (β × List Char)
  | .nil, _, _, cs =>
    match Json.skipBlanks cs with
    | [] => .error .truncated
    | ']' :: rest => .ok ((), rest)
    | _ => .error .malformed
  | .cons _ _ shape missing rest, depth, isFirst, cs => do
    match ← nextElement isFirst cs with
    | none =>
      match missing with
      | none => .error .mismatch
      | some a =>
        let (b, cs) ← rest.ofElements depth isFirst cs
        return ((a, b), cs)
    | some cs =>
      let (a, cs) ← shape.ofChars depth cs
      let (b, cs) ← rest.ofElements depth false cs
      return ((a, b), cs)

end

def Shape.ofText (shape : Shape α) (s : String) : Except Fault α := do
  let (a, rest) ← shape.ofChars Json.nestingLimit s.toList
  Json.ending rest
  return a

end ChatTelemetry.Payload
