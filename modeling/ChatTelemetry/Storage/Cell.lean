import ChatTelemetry.Storage.Backend
/-!
A slot for a backend that is decided at most once: by putting a backend there, by closing it, or by
the first look-up that finds a destination.
-/

namespace ChatTelemetry.Storage

inductive Cell
  | undecided
  /-- There is no backend, for good. -/
  | disabled
  | ready (b : Backend)
deriving DecidableEq, Repr, Inhabited

namespace Cell

def isDecided : Cell → Bool
  | undecided => false
  | _ => true

def get? : Cell → Option Backend
  | ready b => some b
  | _ => none

/-- Puts a backend into an undecided cell; whether that decided it comes first. -/
def set (c : Cell) (b : Backend) : Bool × Cell :=
  match c with
  | undecided => (true, ready b)
  | c => (false, c)

/-- Closes an undecided cell; whether that decided it comes first. -/
def disable (c : Cell) : Bool × Cell :=
  match c with
  | undecided => (true, disabled)
  | c => (false, c)

/-- What a look-up finds, what it had to read for that, and what it logs. -/
structure Lookup where
  cell : Cell
  backend : Option Backend
  readDestination : Bool
  readOptions : Bool
  log : List Log.Event

def logTarget : String := "promptwire_upload::cell"

/--
The backend of a cell. An undecided cell is decided by its destination, if there is one: as the
backend that it stands for, or as having none.
-/
def resolve (c : Cell) (destination : Option String) (options : Options) : Lookup :=
  match c, destination with
  | undecided, none => ⟨undecided, none, true, false, []⟩
  | undecided, some destination =>
    match Backend.ofDestination destination options with
    | .ok b => ⟨ready b, some b, true, true,
        [⟨.debug, logTarget, "storage backend ready",
          [("backend", .quoted b.name), ("destination", .shown destination)]⟩]⟩
    | .error e => ⟨disabled, none, true, true,
        [⟨.warn, logTarget, "failed to create storage backend, content will be discarded",
          [("error", .shown e.message), ("destination", .shown destination)]⟩]⟩
  | c, _ => ⟨c, c.get?, false, false, []⟩

def debugText (c : Cell) : String :=
  let state := match c with
    | undecided => "undecided"
    | disabled => "disabled"
    | ready b => b.name
  "UploaderCell \x7b state: " ++ Text.quoted state ++ " \x7d"

end Cell
end ChatTelemetry.Storage
