import ChatTelemetry.Log.Event
import ChatTelemetry.Text.Alphanumeric
import ChatTelemetry.Text.Blank
import ChatTelemetry.Text.Segments
/-!
Which log events are let through.

A filter is a list of directives with commas between them, each a level, a target or a target with a
level. Of the directives whose target is the beginning of an event's target the longest one decides.
-/

namespace ChatTelemetry.Log

/-- The level that lets through as much as a number says, and of 0 none. -/
def ceilingOfNat? : Nat → Option (Option Level)
  | 0 => some none
  | 1 => some (some .error)
  | 2 => some (some .warn)
  | 3 => some (some .info)
  | 4 => some (some .debug)
  | 5 => some (some .trace)
  | _ => none

/-- The number that digits stand for, with or without a plus sign. -/
def natOfDigits? (cs : List Char) : Option Nat :=
  let ds := (Text.dropStart? ['+'] cs).getD cs
  if ds.isEmpty || !ds.all Char.isDigit then none
  else some (ds.foldl (fun n d => n * 10 + (d.toNat - '0'.toNat)) 0)

/-- The level of a name, in either case, or of a number; the name `off` stands for none. -/
def ceilingOfText? (cs : List Char) : Option (Option Level) :=
  match natOfDigits? cs with
  | some n => ceilingOfNat? n
  | none =>
    let name := String.ofList (cs.map Char.toLower)
    if name = "off" then some none
    else if name = "" || name = "error" then some (some .error)
    else if name = "warn" then some (some .warn)
    else if name = "info" then some (some .info)
    else if name = "debug" then some (some .debug)
    else if name = "trace" then some (some .trace)
    else none

structure Directive where
  /-- What targets begin with; none if all targets are meant. -/
  target : Option (List Char)
  /-- Whether it holds only within spans, of which the library opens none. -/
  isForSpans : Bool
  /-- The least severe level that is let through. -/
  ceiling : Option Level
deriving DecidableEq, Repr, Inhabited

namespace Directive

def isTargetStart (c : Char) : Bool :=
  Text.isAlphanumeric c || c == '-' || c == ':' || c == '_'

/-- The level after an equals sign; nothing stands for all levels. -/
def assignedCeiling? (cs : List Char) : Option (Option Level) :=
  if cs.isEmpty then some (some .trace) else ceilingOfText? cs

/--
Reads a directive from its opening bracket, after `target`; what is in the brackets does not matter.
-/
def ofBracket? (target : Option (List Char)) (cs : List Char) : Option Directive :=
  match cs.dropWhile (· != ']') with
  | [']'] => some ⟨target, true, some .trace⟩
  | ']' :: '=' :: rest => (assignedCeiling? rest).map fun ceiling => ⟨target, true, ceiling⟩
  | _ => none

/--
Reads a directive. Blanks around it do not count in finding the equals sign, yet the target and the
level are cut from the text with them.
-/
def ofChars? (cs : List Char) : Option Directive :=
  let trimmed := Text.trim cs
  let name := trimmed.takeWhile fun c => c != '=' && c != '['
  match name, trimmed.drop name.length with
  | [], '[' :: _ => ofBracket? none trimmed
  | [], _ => none
  | c :: _, rest =>
    if isTargetStart c then
      let target := some (cs.take name.length)
      match rest with
      | '=' :: _ =>
        (assignedCeiling? (cs.drop (name.length + 1))).map fun ceiling => ⟨target, false, ceiling⟩
      | '[' :: _ => ofBracket? target rest
      | _ =>
        match ceilingOfText? cs with
        | some ceiling => some ⟨none, false, ceiling⟩
        | none => some ⟨some cs, false, some .trace⟩
    else none

def isAbout (d : Directive) (target : List Char) : Bool :=
  !d.isForSpans &&
    match d.target with
    | none => true
    | some start => start.isPrefixOf target

/-- The length of the target, which puts no target last. -/
def weight (d : Directive) : Nat :=
  match d.target with
  | none => 0
  | some start => start.length + 1

end Directive

abbrev Filter := List Directive

namespace Filter

/-- Lets through nothing but errors. -/
def errorsOnly : Filter := [⟨none, false, some .error⟩]

def informative : Filter := [⟨none, false, some .info⟩]

/-- Reads a filter; a text without directives lets through nothing but errors. -/
def ofText? (text : String) : Option Filter := do
  let texts := (Text.segments ',' text.toList).filter fun cs => !cs.isEmpty
  let directives ← texts.mapM Directive.ofChars?
  return if directives.isEmpty then errorsOnly else directives

/-- The directive that decides about a target: one of the longest targets, of these the last one. -/
def decisive? (f : Filter) (target : List Char) : Option Directive :=
  (f.filter (·.isAbout target)).foldl (fun best d =>
    match best with
    | none => some d
    | some b => if b.weight ≤ d.weight then some d else some b) none

def admits (f : Filter) (e : Event) : Bool :=
  match (f.decisive? e.target.toList).bind (·.ceiling) with
  | none => false
  | some ceiling => e.level.verbosity ≤ ceiling.verbosity

end Filter
end ChatTelemetry.Log
