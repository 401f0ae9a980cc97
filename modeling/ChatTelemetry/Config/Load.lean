import ChatTelemetry.Config.Placeholder
import ChatTelemetry.Config.Settings
import ChatTelemetry.Storage.Upload
import ChatTelemetry.Toml.Document
/-!
Settings from configuration texts: placeholders are replaced, the text is read and the destination
is checked.
-/

namespace ChatTelemetry.Config

open Storage (Backend Options UploadError)

inductive DestinationFault
  | empty
  | unreadable (basePath : String) (error : Url.ParseError)
  | missingBucket (basePath : String)
  | unsupportedScheme (scheme : String)
deriving DecidableEq, Repr, Inhabited

def DestinationFault.message : DestinationFault → String
  | empty => "upload.base_path must not be empty when set"
  | unreadable basePath error => "invalid upload.base_path '" ++ basePath ++ "': " ++ error.message
  | missingBucket basePath => "upload.base_path '" ++ basePath ++ "' is missing a bucket name"
  | unsupportedScheme scheme =>
    "unsupported upload.base_path scheme '" ++ scheme ++ "', expected a path, file:// or gs://"

/-- Why a configuration could not be loaded. -/
inductive LoadError
  /-- The file is not there, or its bytes are no text. -/
  | unreadable (path reason : String)
  | expansion (e : ExpandError)
  /-- The text is no document, or one with other settings. -/
  | unparsable
  | invalid (fault : DestinationFault)
deriving DecidableEq, Repr, Inhabited

def LoadError.message : LoadError → String
  | unreadable path reason => "failed to read config file " ++ path ++ ": " ++ reason
  | expansion e => "config variable expansion failed: " ++ e.message
  | unparsable => "failed to parse config"
  | invalid fault => fault.message

def checkDestination (basePath : String) : Except DestinationFault Unit :=
  if (Text.trim basePath.toList).isEmpty then .error .empty
  else if Storage.hasScheme basePath.toList then
    match Url.parse basePath with
    | .error e => .error (.unreadable basePath e)
    | .ok url =>
      if url.scheme = "file".toList then .ok ()
      else if url.scheme = "gs".toList then
        if url.host?.isSome then .ok () else .error (.missingBucket basePath)
      else .error (.unsupportedScheme (.ofList url.scheme))
  else .ok ()

def Settings.validate (s : Settings) : Except DestinationFault Unit :=
  match s.upload.basePath with
  | none => .ok ()
  | some basePath => checkDestination basePath

/-- What checking settings logs if they are valid. -/
def Settings.warnings (s : Settings) : List Log.Event :=
  if s.capture.mode = .reference && s.upload.basePath.isNone then
    [⟨.warn, "promptwire_config::loader",
      "capture.mode is 'reference' but upload.base_path is unset, falling back to " ++
        Storage.destinationVariable, []⟩]
  else []

def ofText (env : Environment) (text : String) : Except LoadError Settings :=
  match expand env text.toList with
  | .error e => .error (.expansion e)
  | .ok expanded =>
    match (Toml.read? expanded).bind settings? with
    | none => .error .unparsable
    | some s =>
      match s.validate with
      | .error fault => .error (.invalid fault)
      | .ok () => .ok s

/-- The settings of a configuration file, given its bytes if it is there. -/
def ofFile (env : Environment) (path : String) (bytes : Option (List UInt8)) :
    Except LoadError Settings :=
  match bytes with
  | none => .error (.unreadable path Storage.PathFault.notFound.message)
  | some bytes =>
    match Text.ofUtf8? bytes with
    | none => .error (.unreadable path "stream did not contain valid UTF-8")
    | some cs => ofText env (.ofList cs)

/--
The options of storage services: what is configured, and the token of the environment if none is.
-/
def Upload.options (u : Upload) (env : Environment) : Options where
  endpoint := u.gcs.bind (·.endpoint)
  token := u.gcs.bind (·.accessToken) <|> Storage.environmentToken env

/--
Puts the configured backend into the cell of the process; whether that decided it comes first.
-/
def Upload.install (u : Upload) (w : World) : Except UploadError Bool × World :=
  match u.basePath with
  | none => (.ok false, w)
  | some basePath =>
    match Backend.ofDestination basePath (u.options w.environment) with
    | .error e => (.error e, w)
    | .ok b =>
      let (isNew, cell) := w.cell.set b
      let w := { w with cell }
      if isNew then (.ok true, w)
      else (.ok false, w.log ⟨.debug, Storage.logTarget,
        "storage backend already decided, keeping it", [("destination", .shown basePath)]⟩)

end ChatTelemetry.Config
