import ChatTelemetry.World
/-!
Storing content in a running process.

`nested` says how the calls are performed that a backend of the embedding program makes.
-/

namespace ChatTelemetry.Storage

open Emission (Call)
open Json (Value)

/-- The locator of content that is not stored. -/
def discardLocator : String := "/dev/null"

def destinationVariable : String := "OTEL_INSTRUMENTATION_GENAI_UPLOAD_BASE_PATH"

def tokenVariable : String := "GOOGLE_OAUTH_ACCESS_TOKEN"

def logTarget : String := "promptwire_upload"

/-- The token of the environment; an empty one does not count. -/
def environmentToken (env : Environment) : Option String :=
  (env.get? tokenVariable).filter (· ≠ "")

def Options.ofEnvironment (env : Environment) : Options where
  token := environmentToken env

/-- The destination that the environment gives; a blank one does not count. -/
def environmentDestination (env : Environment) : Option String :=
  (env.get? destinationVariable).filter fun d => !(Text.trim d.toList).isEmpty

/-- The backend of the process, decided by the environment on first use. -/
def globalBackend (w : World) : Option Backend × World :=
  let found := w.cell.resolve (environmentDestination w.environment) (.ofEnvironment w.environment)
  (found.backend, { w with cell := found.cell }.logAll found.log)

def Handle.resolve (h : Handle) (w : World) : Option Backend × World :=
  match h with
  | injected b => (some b, w)
  | global => globalBackend w

def Backend.upload (nested : Call → World → World) (b : Backend) (name : String) (v : Value)
    (w : World) : Except UploadError String × World :=
  let w := w.record (.uploadStarted b name v w.isSuppressed)
  match b with
  | filesystem base =>
    let o := Filesystem.upload base name v w.files
    (o.result, { w with files := o.files }.logAll o.log)
  | bucket b =>
    let o := b.upload name v w.network
    let sent := o.requests.foldl (fun w r => w.record (.requested r)) w
    (o.result, sent.logAll o.log)
  | custom _ id =>
    let c := w.customs id
    let suppressed := w.isSuppressed
    (c.answer name v suppressed, (c.calls name v suppressed).foldl (fun w call => nested call w) w)

/-- Stores a value under a name, with telemetry suppressed, and says where; this never fails. -/
def Handle.store (nested : Call → World → World) (h : Handle) (filename : String) (v : Value)
    (w : World) : String × World :=
  match h.resolve w with
  | (none, w) =>
    (discardLocator, w.log ⟨.debug, logTarget, "no storage backend, discarding content",
      [("filename", .quoted filename)]⟩)
  | (some b, w) =>
    match w.inTaskScope (b.upload nested filename v) with
    | (.ok locator, w) => (locator, w)
    | (.error e, w) =>
      (discardLocator, w.log ⟨.warn, logTarget, "failed to upload content",
        [("error", .shown e.message), ("backend", .quoted b.name), ("filename", .quoted filename)]⟩)

end ChatTelemetry.Storage
