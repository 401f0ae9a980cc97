import ChatTelemetry.Storage.Bucket
import ChatTelemetry.Url.FilePath
/-!
Where content is stored: backends, the places they are made from and the handle that names one.
-/

namespace ChatTelemetry.Storage

/-- A place where content is stored. -/
inductive Backend
  /-- The directory that a path leads to. -/
  | filesystem (base : List UInt8)
  | bucket (b : Bucket)
  | custom (name : String) (id : Nat)
deriving DecidableEq, Repr, Inhabited

def Backend.name : Backend → String
  | filesystem _ => "filesystem"
  | bucket _ => "gcs"
  | custom name _ => name

/-- Settings of a backend that are not part of its destination. -/
structure Options where
  endpoint : Option Url := none
  token : Option String := none
deriving DecidableEq, Repr, Inhabited

/-- Whether a text is a locator and not a plain path. -/
def hasScheme (destination : List Char) : Bool :=
  Text.occursIn "://".toList destination

/-- The backend that a destination stands for: a path, a file or a bucket. -/
def Backend.ofDestination (destination : String) (options : Options) : Except UploadError Backend :=
  let trimmed := Text.trim destination.toList
  let invalid := fun reason => .error (.invalidDestination (.ofList trimmed) reason)
  if trimmed.isEmpty then invalid "destination is empty"
  else if hasScheme trimmed then
    match Url.parse (.ofList trimmed) with
    | .error e => invalid e.message
    | .ok url =>
      if url.scheme = "file".toList then
        match url.filePath? with
        | some path => .ok (.filesystem path)
        | none => invalid "not a local file URI"
      else if url.scheme = "gs".toList then
        let bucket := String.ofList (url.host?.getD [])
        (Bucket.make bucket (.ofList url.path) options.endpoint options.token).map .bucket
      else .error (.unsupportedScheme (.ofList url.scheme))
  else .ok (.filesystem (Text.utf8 trimmed))

/-- Which backend content goes to: one that is given, or the one of the process. -/
inductive Handle
  | injected (b : Backend)
  | global
deriving DecidableEq, Repr, Inhabited

def Handle.debugText : Handle → String
  | injected b => "Injected(" ++ Text.quoted b.name ++ ")"
  | global => "Global"

end ChatTelemetry.Storage
