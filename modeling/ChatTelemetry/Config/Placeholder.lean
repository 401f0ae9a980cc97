import ChatTelemetry.Environment
import ChatTelemetry.Text.Blank
import ChatTelemetry.Text.Segments
/-!
Placeholders for variables of the environment in configuration texts.

A placeholder is `env.NAME` between double braces, with a text for the case that the variable is not
set or without one. Lines whose first character is `#` are copied as they are, in all others every
placeholder is replaced, from left to right; what has been put in is not looked at again.
-/

namespace ChatTelemetry.Config

structure Placeholder where
  key : List Char
  fallback : Option (List Char)
deriving DecidableEq, Repr, Inhabited

/-- Why a placeholder has no text to put in its place. -/
inductive ExpandError
  | unsupported (key : List Char)
  | unset (name : List Char)
deriving DecidableEq, Repr, Inhabited

def ExpandError.message : ExpandError → String
  | unsupported key =>
    "unsupported placeholder `" ++ .ofList key ++ "`: only `env.NAME` is recognized"
  | unset name => "environment variable `" ++ .ofList name ++ "` is not set"

namespace Placeholder

def isKeyChar (c : Char) : Bool :=
  ('a' ≤ c && c ≤ 'z') || ('A' ≤ c && c ≤ 'Z') || ('0' ≤ c && c ≤ '9') || c == '_' || c == '.'

def skipBlanks (cs : List Char) : List Char :=
  cs.dropWhile Text.isBlank

/-- The text for an unset variable, after the bar, and what follows it. -/
def fallback? (cs : List Char) : Option (List Char × List Char) := do
  let rest ← Text.dropStart? "default(\"".toList (skipBlanks cs)
  let (text, rest) ← Text.cutAt? '"' rest
  let rest ← Text.dropStart? [')'] rest
  return (text, skipBlanks rest)

def atFront? (cs : List Char) : Option (Placeholder × List Char) := do
  let rest := skipBlanks (← Text.dropStart? ['\x7b', '\x7b'] cs)
  let key := rest.takeWhile isKeyChar
  if key.isEmpty then none
  else
    let (fallback, rest) ← match skipBlanks (rest.dropWhile isKeyChar) with
      | '|' :: rest => (fallback? rest).map fun (text, rest) => (some text, rest)
      | rest => some (none, rest)
    let rest ← Text.dropStart? ['\x7d', '\x7d'] rest
    return (⟨key, fallback⟩, rest)

def variableName? (key : List Char) : Option (List Char) := do
  let name ← Text.dropStart? "env.".toList key
  if name.isEmpty || name.contains '.' then none else return name

def resolve (env : Environment) (p : Placeholder) : Except ExpandError (List Char) :=
  match variableName? p.key with
  | none => .error (.unsupported p.key)
  | some name =>
    match env.get? (.ofList name), p.fallback with
    | some value, _ => .ok value.toList
    | none, some text => .ok text
    | none, none => .error (.unset name)

end Placeholder

/-- The lines of a text, each with the line break that ends it. -/
def lines : List Char → List (List Char)
  | [] => []
  | c :: cs =>
    if c = '\n' then [c] :: lines cs
    else
      match lines cs with
      | [] => [[c]]
      | l :: rest => (c :: l) :: rest

def isComment (line : List Char) : Bool :=
  ['#'].isPrefixOf (line.dropWhile Text.isBlank)

/-- A line with its placeholders replaced; its first `skipped` characters have been dealt with. -/
def expandLine (env : Environment) : (skipped : Nat) → List Char → Except ExpandError (List Char)
  | _, [] => .ok []
  | skipped + 1, _ :: cs => expandLine env skipped cs
  | 0, c :: cs =>
    match Placeholder.atFront? (c :: cs) with
    | none => do return c :: (← expandLine env 0 cs)
    | some (p, rest) => do
      let text ← p.resolve env
      return text ++ (← expandLine env (cs.length - rest.length) cs)

def expand (env : Environment) (cs : List Char) : Except ExpandError (List Char) := do
  let expanded ← (lines cs).mapM fun line =>
    if isComment line then .ok line else expandLine env 0 line
  return expanded.flatten

end ChatTelemetry.Config
