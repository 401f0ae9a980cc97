import ChatTelemetry.Text.Hex
/-!
Texts in configuration documents: between quotes, with escapes or without, on one line or several.
-/

namespace ChatTelemetry.Toml

def isPlain (c : Char) : Bool :=
  c == '\t' || (0x20 ≤ c.toNat && c.toNat != 0x7f)

/-- The character with a number; none for surrogates and beyond the last one. -/
def ofScalar? (digits : List Char) : Option Char := do
  let n ← digits.foldlM (fun n d => do return n * 16 + (← Text.hexValue? d)) 0
  if n < 0xd800 || (0xdfff < n && n < 0x110000) then some (.ofNat n) else none

/-- The character that a letter after a backslash stands for. -/
def letterEscape? (c : Char) : Option Char :=
  match c with
  | 'b' => some '\x08'
  | 't' => some '\t'
  | 'n' => some '\n'
  | 'f' => some '\x0c'
  | 'r' => some '\r'
  | 'e' => some '\x1b'
  | '"' => some '"'
  | '\\' => some '\\'
  | _ => none

/-- The character after a backslash, and how many characters its escape takes. -/
def escape? (cs : List Char) : Option (Char × Nat) :=
  match cs with
  | 'x' :: rest => numbered 2 rest
  | 'u' :: rest => numbered 4 rest
  | 'U' :: rest => numbered 8 rest
  | c :: _ => (letterEscape? c).map (·, 1)
  | [] => none
where
  numbered (count : Nat) (rest : List Char) : Option (Char × Nat) :=
    if (rest.take count).length = count then (ofScalar? (rest.take count)).map (·, count + 1)
    else none

/-- A text up to the closing quote; the first `skipped` characters belong to an escape. -/
def basicText? : (skipped : Nat) → List Char → Option (List Char × List Char)
  | _, [] => none
  | skipped + 1, _ :: cs => basicText? skipped cs
  | 0, c :: cs =>
    if c = '"' then some ([], cs)
    else if c = '\\' then do
      let (d, length) ← escape? cs
      let (text, rest) ← basicText? length cs
      return (d :: text, rest)
    else if isPlain c then do
      let (text, rest) ← basicText? 0 cs
      return (c :: text, rest)
    else none

/-- A text without escapes up to the closing quote. -/
def literalText? (cs : List Char) : Option (List Char × List Char) :=
  let text := cs.takeWhile fun c => isPlain c && c != '\''
  match cs.drop text.length with
  | '\'' :: rest => some (text, rest)
  | _ => none

def withoutLineBreak (cs : List Char) : List Char :=
  match cs with
  | '\n' :: rest | '\r' :: '\n' :: rest => rest
  | cs => cs

def startsWithLineBreak (cs : List Char) : Bool :=
  match cs with
  | '\n' :: _ | '\r' :: '\n' :: _ => true
  | _ => false

/--
How many characters a backslash at the end of a line leaves out after it; none if it is not there.
-/
def lineEnd? (cs : List Char) : Option Nat :=
  let isInline := fun c => c == ' ' || c == '\t'
  if startsWithLineBreak (cs.dropWhile isInline) then
    some (cs.takeWhile fun c => isInline c || c == '\n' || c == '\r').length
  else none

/--
The quotes at the end of a text of several lines: the last three close it, up to two before belong
to it.
-/
def closing? (quote : Char) (cs : List Char) : Option (List Char × List Char) :=
  let count := (cs.takeWhile (· == quote)).length
  if 3 ≤ count then
    let inner := min (count - 3) 2
    some (List.replicate inner quote, cs.drop (inner + 3))
  else none

def multilineText? (quote : Char) : (skipped : Nat) → List Char → Option (List Char × List Char)
  | _, [] => none
  | skipped + 1, _ :: cs => multilineText? quote skipped cs
  | 0, c :: cs =>
    let keep := fun (c : Char) (more : Option (List Char × List Char)) =>
      more.map fun (text, rest) => (c :: text, rest)
    match closing? quote (c :: cs) with
    | some found => some found
    | none =>
      if quote = '"' && c = '\\' then
        match lineEnd? cs with
        | some length => multilineText? quote length cs
        | none => do
          let (d, length) ← escape? cs
          keep d (multilineText? quote length cs)
      else if isPlain c || startsWithLineBreak (c :: cs) then
        keep c (multilineText? quote 0 cs)
      else none

/-- The text at the front, between quotes of any kind, and what follows it. -/
def text? (cs : List Char) : Option (List Char × List Char) :=
  match cs with
  | '"' :: '"' :: '"' :: rest => multilineText? '"' 0 (withoutLineBreak rest)
  | '\'' :: '\'' :: '\'' :: rest => multilineText? '\'' 0 (withoutLineBreak rest)
  | '"' :: rest => basicText? 0 rest
  | '\'' :: rest => literalText? rest
  | _ => none

end ChatTelemetry.Toml
