import ChatTelemetry.Json.Number
import ChatTelemetry.Text.Hex
/-!
Reading JSON texts.

The grammar of arrays and objects is written once, in `elements` and `members`, and shared by
`value`, which reads a tree, and `skip`, which passes over one. A reading states which fault comes
first in the text.
-/

namespace ChatTelemetry.Json

def nestingLimit : Nat := 127

/-- Passes over the rest of a name whose first character has been read. -/
def restOfName (name : List Char) (cs : List Char) : Except Fault (List Char) :=
  match name, cs with
  | [], cs => .ok cs
  | _ :: _, [] => .error .truncated
  | n :: name, c :: cs => if n = c then restOfName name cs else .error .malformed

def hexQuad? (a b c d : Char) : Option Nat := do
  let a ← Text.hexValue? a
  let b ← Text.hexValue? b
  let c ← Text.hexValue? c
  let d ← Text.hexValue? d
  return ((a * 16 + b) * 16 + c) * 16 + d

/--
The fault of a text too short, in characters, for four digits: it may still be long enough in bytes.
-/
def shortQuadFault (cs : List Char) : Fault :=
  if cs.foldr (fun c n => c.utf8Size + n) 0 < 4 then .truncated else .malformed

/-- The character that a letter after a backslash stands for. -/
def simpleEscape? (c : Char) : Option Char :=
  match c with
  | '"' => some '"'
  | '\\' => some '\\'
  | '/' => some '/'
  | 'b' => some '\x08'
  | 'f' => some '\x0c'
  | 'n' => some '\n'
  | 'r' => some '\r'
  | 't' => some '\t'
  | _ => none

def isHighSurrogate (n : Nat) : Bool :=
  0xd800 ≤ n && n < 0xdc00

def isLowSurrogate (n : Nat) : Bool :=
  0xdc00 ≤ n && n < 0xe000

def ofSurrogates (high low : Nat) : Char :=
  .ofNat (0x10000 + (high - 0xd800) * 0x400 + (low - 0xdc00))

/-- The text up to the closing quote, after what has been read of it in reverse. -/
def stringBody (done : List Char) : List Char → Except Fault (String × List Char)
  | [] => .error .truncated
  | '"' :: rest => .ok (.ofList done.reverse, rest)
  | '\\' :: 'u' :: a :: b :: c :: d :: rest =>
    match hexQuad? a b c d with
    | none => .error .malformed
    | some n =>
      if isLowSurrogate n then .error .malformed
      else if isHighSurrogate n then
        match rest with
        | '\\' :: 'u' :: a :: b :: c :: d :: rest =>
          match hexQuad? a b c d with
          | none => .error .malformed
          | some m =>
            if isLowSurrogate m then stringBody (ofSurrogates n m :: done) rest
            else .error .malformed
        | '\\' :: 'u' :: short => .error (shortQuadFault short)
        | [] | ['\\'] => .error .truncated
        | _ => .error .malformed
      else stringBody (.ofNat n :: done) rest
  | '\\' :: 'u' :: short => .error (shortQuadFault short)
  | ['\\'] => .error .truncated
  | '\\' :: c :: rest =>
    match simpleEscape? c with
    | some c => stringBody (c :: done) rest
    | none => .error .malformed
  | c :: rest => if c.toNat < 0x20 then .error .malformed else stringBody (c :: done) rest

/-- Passes over a text up to the closing quote; surrogates need not pair up. -/
def skipString : List Char → Except Fault (List Char)
  | [] => .error .truncated
  | '"' :: rest => .ok rest
  | '\\' :: 'u' :: a :: b :: c :: d :: rest =>
    match hexQuad? a b c d with
    | none => .error .malformed
    | some _ => skipString rest
  | '\\' :: 'u' :: short => .error (shortQuadFault short)
  | ['\\'] => .error .truncated
  | '\\' :: c :: rest => if (simpleEscape? c).isSome then skipString rest else .error .malformed
  | c :: rest => if c.toNat < 0x20 then .error .malformed else skipString rest

/-- Passes over the colon after a key. -/
def colon (cs : List Char) : Except Fault (List Char) :=
  match skipBlanks cs with
  | [] => .error .truncated
  | ':' :: rest => .ok rest
  | _ => .error .malformed

/--
The elements of an array after its opening bracket. Each is read by `step` from the state that the
ones before it have left.
-/
def elements (step : σ → List Char → Except Fault (σ × List Char)) (state : σ) (cs : List Char) :
    Except Fault (σ × List Char) :=
  match skipBlanks cs with
  | [] => .error .truncated
  | ']' :: rest => .ok (state, rest)
  | cs => go cs.length state cs
where
  go : Nat → σ → List Char → Except Fault (σ × List Char)
    | 0, _, _ => .error .malformed
    | fuel + 1, state, cs => do
      let (state, cs) ← step state cs
      match skipBlanks cs with
      | [] => .error .truncated
      | ']' :: rest => .ok (state, rest)
      | ',' :: rest =>
        match skipBlanks rest with
        | [] => .error .truncated
        | ']' :: _ => .error .malformed
        | cs => go fuel state cs
      | _ => .error .malformed

/--
The fields of an object after its opening brace. A key is read by `key` after its opening quote;
`step` reads the colon and the value.
-/
def members (key : List Char → Except Fault (κ × List Char))
    (step : σ → κ → List Char → Except Fault (σ × List Char)) (state : σ) (cs : List Char) :
    Except Fault (σ × List Char) :=
  match skipBlanks cs with
  | [] => .error .truncated
  | '}' :: rest => .ok (state, rest)
  | '"' :: rest => go rest.length.succ state rest
  | _ => .error .malformed
where
  go : Nat → σ → List Char → Except Fault (σ × List Char)
    | 0, _, _ => .error .malformed
    | fuel + 1, state, cs => do
      let (k, cs) ← key cs
      let (state, cs) ← step state k cs
      match skipBlanks cs with
      | [] => .error .truncated
      | '}' :: rest => .ok (state, rest)
      | ',' :: rest =>
        match skipBlanks rest with
        | [] => .error .truncated
        | '"' :: rest => go fuel state rest
        | _ => .error .malformed
      | _ => .error .malformed

def number (cs : List Char) : Except Fault (Value × List Char) := do
  let (literal, cs) ← Literal.read cs
  match literal.value? with
  | some v => .ok (v, cs)
  | none => .error .malformed

/-- The tree at the front of a text; arrays and objects may be nested `depth` levels deep. -/
def value (depth : Nat) (cs : List Char) : Except Fault (Value × List Char) :=
  match skipBlanks cs with
  | [] => .error .truncated
  | 'n' :: rest => do return (.null, ← restOfName ['u', 'l', 'l'] rest)
  | 't' :: rest => do return (.bool true, ← restOfName ['r', 'u', 'e'] rest)
  | 'f' :: rest => do return (.bool false, ← restOfName ['a', 'l', 's', 'e'] rest)
  | '"' :: rest => do
    let (s, rest) ← stringBody [] rest
    return (.string s, rest)
  | '[' :: rest =>
    match depth with
    | 0 => .error .malformed
    | depth + 1 => do
      let step := fun items cs => do
        let (v, cs) ← value depth cs
        return (v :: items, cs)
      let (items, rest) ← elements step [] rest
      return (.array items.reverse, rest)
  | '{' :: rest =>
    match depth with
    | 0 => .error .malformed
    | depth + 1 => do
      let step := fun fields k cs => do
        let (v, cs) ← value depth (← colon cs)
        return ((k, v) :: fields, cs)
      let (fields, rest) ← members (stringBody []) step [] rest
      return (.object fields.reverse, rest)
  | c :: rest => if c == '-' || isDigit c then number (c :: rest) else .error .malformed

/-- Passes over a number; where digits are missing the text is malformed even if it ends there. -/
def skipNumber (cs : List Char) : Except Fault (List Char) :=
  match Literal.read cs with
  | .ok (_, rest) => .ok rest
  | .error _ => .error .malformed

/-- Passes over a tree nested at most `depth` levels deep. -/
def skipWithin (depth : Nat) (cs : List Char) : Except Fault (List Char) :=
  match skipBlanks cs with
  | [] => .error .truncated
  | 'n' :: rest => restOfName ['u', 'l', 'l'] rest
  | 't' :: rest => restOfName ['r', 'u', 'e'] rest
  | 'f' :: rest => restOfName ['a', 'l', 's', 'e'] rest
  | '"' :: rest => skipString rest
  | '[' :: rest =>
    match depth with
    | 0 => .error .malformed
    | depth + 1 => do
      let step := fun (_ : Unit) cs => do return ((), ← skipWithin depth cs)
      return (← elements step () rest).2
  | '{' :: rest =>
    match depth with
    | 0 => .error .malformed
    | depth + 1 => do
      let key := fun cs => do return ((), ← skipString cs)
      let step := fun (_ _ : Unit) cs => do return ((), ← skipWithin depth (← colon cs))
      return (← members key step () rest).2
  | c :: rest => if c == '-' || isDigit c then skipNumber (c :: rest) else .error .malformed

/-- Passes over a tree. Its nesting is not limited: it is never deeper than the text is long. -/
def skip (cs : List Char) : Except Fault (List Char) :=
  skipWithin cs.length cs

/-- Nothing but blanks may follow. -/
def ending (cs : List Char) : Except Fault Unit :=
  if (skipBlanks cs).isEmpty then .ok () else .error .malformed

/--
The tree that a text is, nested at most `depth` levels deep, fields as they stand in the text.
-/
def readWithin (depth : Nat) (cs : List Char) : Except Fault Value := do
  let (v, rest) ← value depth cs
  ending rest
  return v

def read (s : String) : Except Fault Value := do
  return (← readWithin nestingLimit s.toList).canonical

end ChatTelemetry.Json
