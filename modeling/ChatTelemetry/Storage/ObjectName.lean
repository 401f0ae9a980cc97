import ChatTelemetry.Text.Segments
/-!
Names of stored objects: relative paths that cannot leave the place they are resolved in.
-/

namespace ChatTelemetry.Storage

/-- A segment that would stay where it is or go up. -/
def isDotSegment (segment : List Char) : Bool :=
  segment == ['.'] || segment == ['.', '.']

/-- Whether a name has only segments that lead down, and no backslash. -/
def isObjectName (name : String) : Bool :=
  !name.toList.contains '\\' &&
    (Text.segments '/' name.toList).all fun s => !s.isEmpty && !isDotSegment s

end ChatTelemetry.Storage
