import ChatTelemetry.Json.Printer
import ChatTelemetry.Log.Event
import ChatTelemetry.Storage.Files
import ChatTelemetry.Storage.ObjectName
/-!
Content kept in files below a directory.
-/

namespace ChatTelemetry.Storage.Filesystem

open Json (Value)

def objectPath (base : List UInt8) (name : String) : List UInt8 :=
  if base = [] then Text.bytes name
  else if base.getLast? = some Path.slash then base ++ Text.bytes name
  else base ++ Path.slash :: Text.bytes name

/-- What comes of an upload: the files, the locator or why there is none, and what is logged. -/
structure Outcome where
  files : Files
  result : Except UploadError String
  log : List Log.Event

/-- Writes the compact text of a value to the path of its object; the locator shows this path. -/
def upload (base : List UInt8) (name : String) (v : Value) (files : Files) : Outcome :=
  if isObjectName name then
    let path := objectPath base name
    let content := v.text
    match files.store path content with
    | (files, .ok ()) =>
      { files
        result := .ok (shownPath path)
        log := [⟨.debug, "promptwire_upload::fs", "payload written",
          [("path", .shown (shownPath path)), ("size", .count content.utf8ByteSize)]⟩] }
    | (files, .error fault) => { files, result := .error (.io fault), log := [] }
  else { files, result := .error (.invalidName name), log := [] }

end ChatTelemetry.Storage.Filesystem
