import ChatTelemetry.Url.Path
/-!
The file that a locator stands for.
-/

namespace ChatTelemetry.Url

/-- The path with a slash after a drive letter at its end. -/
def withDriveSlash (bs : List UInt8) : List UInt8 :=
  match bs.reverse with
  | b :: d :: _ :: _ =>
    if isAsciiLetter (.ofNat d.toNat) && (b == 0x3a || b == 0x7c) then bs ++ [0x2f] else bs
  | _ => bs

/-- The path of a file on this machine, escapes resolved; its bytes need not be those of a text. -/
def filePath? (u : Url) : Option (List UInt8) :=
  if (u.authority.bind (·.host)).isNone && ['/'].isPrefixOf u.path then
    some (withDriveSlash (Text.percentDecode u.path))
  else none

end ChatTelemetry.Url
