import ChatTelemetry.Toml.Scalar
import ChatTelemetry.Toml.Text
import ChatTelemetry.Toml.Value
/-!
Reading configuration documents.

A document is a sequence of headers and of keys with values. While it is read, a `Node` keeps how
each table came about, since a table may be opened by one header only, and dotted keys extend only
tables that dotted keys have made.
-/

namespace ChatTelemetry.Toml

inductive Node
  | leaf (v : Value)
  /-- A table: whether it was only passed through, whether dotted keys made it, and its fields. -/
  | table (isImplicit isDotted : Bool) (fields : List (String × Node))
  | tables (items : List Node)
deriving Inhabited

namespace Node

def replace (key : String) (n : Node) : List (String × Node) → List (String × Node)
  | [] => [(key, n)]
  | (k, m) :: rest => if k = key then (key, n) :: rest else (k, m) :: replace key n rest

/--
Changes the table that a path leads to, making tables on the way. Of tables opened in double
brackets the path goes through the last one.
-/
def within (isDotted : Bool) (change : Node → Option Node) : List String → Node → Option Node
  | [], n => change n
  | key :: path, .table isImplicit madeDotted fields => do
    let child ← match fields.lookup key with
      | none => within isDotted change path (.table true isDotted [])
      | some (.leaf _) => none
      | some (.tables items) =>
        match items.getLast? with
        | none => none
        | some last =>
          (within isDotted change path last).map fun last => .tables (items.dropLast ++ [last])
      | some (.table childImplicit childDotted inner) =>
        if isDotted && !childImplicit then none
        else within isDotted change path (.table childImplicit childDotted inner)
    return .table isImplicit madeDotted (replace key child fields)
  | _, _ => none

/-- Adds a field that is not there yet. -/
def addField (throughDots : Bool) (key : String) (v : Value) : Node → Option Node
  | .table isImplicit isDotted fields =>
    if isDotted != throughDots || (fields.lookup key).isSome then none
    else some (.table isImplicit isDotted (fields ++ [(key, .leaf v)]))
  | _ => none

/-- Adds a value under a key, which may be dotted. -/
def addValue (path : List String) (key : String) (v : Value) (n : Node) : Option Node :=
  within true (addField (!path.isEmpty) key v) path n

/-- Opens a table, which may have been passed through but not opened before. -/
def openTable (key : String) : Node → Option Node
  | .table isImplicit isDotted fields =>
    match fields.lookup key with
    | none => some (.table isImplicit isDotted (fields ++ [(key, .table false false [])]))
    | some (.table true false inner) =>
      some (.table isImplicit isDotted (replace key (.table false false inner) fields))
    | _ => none
  | _ => none

def openTables (key : String) : Node → Option Node
  | .table isImplicit isDotted fields =>
    let new : Node := .table false false []
    match fields.lookup key with
    | none => some (.table isImplicit isDotted (fields ++ [(key, .tables [new])]))
    | some (.tables items) =>
      some (.table isImplicit isDotted (replace key (.tables (items ++ [new])) fields))
    | _ => none
  | _ => none

mutual

def toValue : Node → Value
  | .leaf v => v
  | .table _ _ fields => .table (fieldsToValue fields)
  | .tables items => .array (itemsToValue items)

def itemsToValue : List Node → List Value
  | [] => []
  | n :: rest => toValue n :: itemsToValue rest

def fieldsToValue : List (String × Node) → List (String × Value)
  | [] => []
  | (key, n) :: rest => (key, toValue n) :: fieldsToValue rest

end
end Node

/-! ### Blanks and keys -/

def isInlineBlank (c : Char) : Bool :=
  c == ' ' || c == '\t'

def skipInline (cs : List Char) : List Char :=
  cs.dropWhile isInlineBlank

/-- Passes over a comment, if one comes first, up to the line break. -/
def skipComment (cs : List Char) : List Char :=
  match cs with
  | '#' :: rest => rest.dropWhile isPlain
  | cs => cs

/-- Passes over what may stand at the end of a line, and the line break. -/
def endLine? (cs : List Char) : Option (List Char) :=
  match skipComment (skipInline cs) with
  | [] => some []
  | '\n' :: rest | '\r' :: '\n' :: rest => some rest
  | _ => none

/-- Passes over blanks, comments and line breaks. -/
def skipLines (cs : List Char) : List Char :=
  go cs.length cs
where
  go : Nat → List Char → List Char
    | 0, cs => cs
    | fuel + 1, cs =>
      match skipComment (skipInline cs) with
      | '\n' :: rest | '\r' :: '\n' :: rest => go fuel rest
      | rest => rest

def isBareKeyChar (c : Char) : Bool :=
  isDigit c || ('a' ≤ c && c ≤ 'z') || ('A' ≤ c && c ≤ 'Z') || c == '_' || c == '-'

def simpleKey? (cs : List Char) : Option (String × List Char) :=
  match cs with
  | '"' :: rest => (basicText? 0 rest).map fun (text, rest) => (.ofList text, rest)
  | '\'' :: rest => (literalText? rest).map fun (text, rest) => (.ofList text, rest)
  | cs =>
    let key := cs.takeWhile isBareKeyChar
    if key.isEmpty then none else some (.ofList key, cs.dropWhile isBareKeyChar)

/-- The parts of a key with dots between them, and what follows it. -/
def dottedKey? (fuel : Nat) (cs : List Char) : Option (List String × List Char) := do
  match fuel with
  | 0 => none
  | fuel + 1 =>
    let (key, rest) ← simpleKey? (skipInline cs)
    match skipInline rest with
    | '.' :: rest => do
      let (keys, rest) ← dottedKey? fuel rest
      return (key :: keys, rest)
    | rest => return ([key], rest)

def key? (cs : List Char) : Option (List String × String × List Char) := do
  let (keys, rest) ← dottedKey? cs.length cs
  return (keys.dropLast, ← keys.getLast?, rest)

/-! ### Values -/

mutual

def value? (fuel : Nat) (cs : List Char) : Option (Value × List Char) :=
  match fuel, cs with
  | 0, _ => none
  | fuel + 1, '[' :: rest => do
    let (items, rest) ← items? fuel (skipLines rest)
    return (.array items, rest)
  | fuel + 1, '\x7b' :: rest => do
    let (table, rest) ← fields? fuel (.table false false []) (skipLines rest)
    return (table.toValue, rest)
  | _, '"' :: _ | _, '\'' :: _ => do
    let (text, rest) ← text? cs
    return (.string (.ofList text), rest)
  | _, cs =>
    let (text, rest) := scalarText cs
    if text == "true".toList then some (.boolean true, rest)
    else if text == "false".toList then some (.boolean false, rest)
    else if isScalar text then some (.scalar (.ofList text), rest)
    else none

/-- The items of an array up to its closing bracket; a comma may follow the last one. -/
def items? (fuel : Nat) (cs : List Char) : Option (List Value × List Char) :=
  match fuel, cs with
  | 0, _ => none
  | _, ']' :: rest => some ([], rest)
  | fuel + 1, cs => do
    let (v, rest) ← value? fuel cs
    match skipLines rest with
    | ']' :: rest => return ([v], rest)
    | ',' :: rest => do
      let (items, rest) ← items? fuel (skipLines rest)
      return (v :: items, rest)
    | _ => none

/-- The fields of a table up to its closing brace; a comma may follow the last one. -/
def fields? (fuel : Nat) (table : Node) (cs : List Char) : Option (Node × List Char) :=
  match fuel, cs with
  | 0, _ => none
  | _, '\x7d' :: rest => some (table, rest)
  | fuel + 1, cs => do
    let (path, key, rest) ← key? cs
    let rest ← match rest with
      | '=' :: rest => some rest
      | _ => none
    let (v, rest) ← value? fuel (skipInline rest)
    let table ← table.addValue path key v
    match skipLines rest with
    | '\x7d' :: rest => return (table, rest)
    | ',' :: rest => fields? fuel table (skipLines rest)
    | _ => none

end

/-! ### Documents -/

structure Progress where
  root : Node
  openPath : List String

def Progress.addValue (p : Progress) (path : List String) (key : String) (v : Value) :
    Option Progress := do
  let root ← Node.within false (Node.addValue path key v) p.openPath p.root
  return { p with root }

/-- Reads a header after its opening brackets. -/
def header? (closing : List Char) (openAt : String → Node → Option Node) (p : Progress)
    (cs : List Char) : Option (Progress × List Char) := do
  let (path, key, rest) ← key? cs
  let rest ← endLine? (← dropClosing closing rest)
  let root ← Node.within false (openAt key) path p.root
  return (⟨root, path ++ [key]⟩, rest)
where
  dropClosing : List Char → List Char → Option (List Char)
    | [], cs => some cs
    | b :: closing, c :: cs => if b = c then dropClosing closing cs else none
    | _ :: _, [] => none

def keyValue? (p : Progress) (cs : List Char) : Option (Progress × List Char) := do
  let (path, key, rest) ← key? cs
  let rest ← match rest with
    | '=' :: rest => some rest
    | _ => none
  let (v, rest) ← value? rest.length.succ (skipInline rest)
  let rest ← endLine? rest
  return (← p.addValue path key v, rest)

def lines? (fuel : Nat) (p : Progress) (cs : List Char) : Option Progress :=
  match fuel, skipLines cs with
  | _, [] => some p
  | 0, _ => none
  | fuel + 1, '[' :: '[' :: rest => do
    let (p, rest) ← header? [']', ']'] Node.openTables p rest
    lines? fuel p rest
  | fuel + 1, '[' :: rest => do
    let (p, rest) ← header? [']'] Node.openTable p rest
    lines? fuel p rest
  | fuel + 1, cs => do
    let (p, rest) ← keyValue? p cs
    lines? fuel p rest

/-- The table that a document is; a mark of its encoding may come first. -/
def read? (cs : List Char) : Option Value := do
  let cs := match cs with
    | '\ufeff' :: rest => rest
    | cs => cs
  let p ← lines? cs.length ⟨.table false false [], []⟩ cs
  return p.root.toValue

end ChatTelemetry.Toml
