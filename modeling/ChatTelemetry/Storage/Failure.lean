/-!
Why content could not be stored.
-/

namespace ChatTelemetry.Storage

inductive PathFault
  | notFound
  | alreadyExists
  | notADirectory
  | isADirectory
  | nameTooLong
  /-- The path has a character that no path may have. -/
  | nulInPath
deriving DecidableEq, Repr, Inhabited

def PathFault.message : PathFault → String
  | notFound => "No such file or directory (os error 2)"
  | alreadyExists => "File exists (os error 17)"
  | notADirectory => "Not a directory (os error 20)"
  | isADirectory => "Is a directory (os error 21)"
  | nameTooLong => "File name too long (os error 36)"
  | nulInPath => "file name contained an unexpected NUL byte"

/-- Why content could not be stored, or a place to store it could not be made. -/
inductive UploadError
  | unsupportedScheme (scheme : String)
  | invalidDestination (destination reason : String)
  | invalidName (name : String)
  | io (fault : PathFault)
  /-- The HTTP client has no answer, for a reason that it gives. -/
  | transport (reason : String)
  | status (code : Nat) (body : String)
deriving DecidableEq, Repr, Inhabited

def UploadError.message : UploadError → String
  | unsupportedScheme scheme => "unsupported storage scheme '" ++ scheme ++ "'"
  | invalidDestination destination reason =>
    "invalid storage destination '" ++ destination ++ "': " ++ reason
  | invalidName name => "invalid object name '" ++ name ++ "'"
  | io fault => "storage I/O failed: " ++ fault.message
  | transport reason => "storage request failed: " ++ reason
  | status code body =>
    "storage API error (" ++ .ofList (Nat.toDigits 10 code) ++ "): " ++ body

end ChatTelemetry.Storage
