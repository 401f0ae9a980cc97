import ChatTelemetry.Url.Basic
/-!
Paths of locators.

A path is built segment by segment: `.` leaves it as it is, `..` takes its last segment away, and
any other segment is appended. In the paths of files, drive letters are kept in place.
-/

namespace ChatTelemetry.Url

def isAsciiLetter (c : Char) : Bool :=
  ('a' ≤ c && c ≤ 'z') || ('A' ≤ c && c ≤ 'Z')

def isDriveLetter (segment : List Char) : Bool :=
  match segment with
  | [c, d] => isAsciiLetter c && (d == ':' || d == '|')
  | _ => false

def isNormalDriveLetter (segment : List Char) : Bool :=
  isDriveLetter segment && segment.getLast? == some ':'

/-- One dot, or an escaped one. -/
def isSingleDot (segment : List Char) : Bool :=
  let s := segment.map Char.toLower
  s == ['.'] || s == "%2e".toList

/-- Two dots, each of which may be escaped. -/
def isDoubleDot (segment : List Char) : Bool :=
  let s := segment.map Char.toLower
  s == "..".toList || s == ".%2e".toList || s == "%2e.".toList || s == "%2e%2e".toList

def endsWithSlash (path : List Char) : Bool :=
  path.getLast? == some '/'

def withSlash (path : List Char) : List Char :=
  if endsWithSlash path then path else path ++ ['/']

/-- The last segment of a path, in reverse. -/
def lastSegmentReversed (path : List Char) : List Char :=
  path.reverse.takeWhile (· != '/')

/-- The path up to and with its last slash. -/
def withoutLastSegment (path : List Char) : List Char :=
  (path.reverse.dropWhile (· != '/')).reverse

/-- The path without its last slash, unless that is its first or follows a drive letter. -/
def withoutLastSlash (path : List Char) : List Char :=
  let before := path.dropLast
  if endsWithSlash path && before.contains '/' &&
      !isDriveLetter (lastSegmentReversed before).reverse then before
  else path

/-- The path without its last segment, which stays if it is a drive letter of a file path. -/
def popped (kind : SchemeKind) (path : List Char) : List Char :=
  if kind == .file && isNormalDriveLetter (lastSegmentReversed path).reverse then path
  else withoutLastSegment path

def appendSegment (kind : SchemeKind) (path segment : List Char) (slash : Bool) : List Char :=
  let ending := if slash then ['/'] else []
  if isDoubleDot segment then
    let shorter := popped kind (withoutLastSlash path)
    if slash then withSlash shorter else shorter
  else if isSingleDot segment then withSlash path
  else if kind == .file && path.length == 1 && isDriveLetter segment then
    path ++ segment.take 1 ++ ':' :: ending
  else path ++ segment ++ ending

/-- The segments of a path as written, each with whether a slash follows it. -/
def writtenSegments (isSpecial : Bool) : List Char → List (List Char × Bool)
  | [] => [([], false)]
  | c :: cs =>
    if c == '/' || (isSpecial && c == '\\') then ([], true) :: writtenSegments isSpecial cs
    else
      match writtenSegments isSpecial cs with
      | [] => [([c], false)]
      | (segment, slash) :: rest => (c :: segment, slash) :: rest

def withOneSlash (kind : SchemeKind) (path : List Char) : List Char :=
  if kind == .file then '/' :: path.dropWhile (· == '/') else path

def appendSegments (kind : SchemeKind) (path text : List Char) : List Char :=
  (writtenSegments kind.isSpecial text).foldl (fun path (segment, slash) =>
    appendSegment kind path (Text.percentEncode escapedInPath segment) slash) path

/-- Whether the first segment of a path is a drive letter, which leaves no room for a host. -/
def startsWithDriveLetter (path : List Char) : Bool :=
  match path with
  | '/' :: rest => isNormalDriveLetter (rest.takeWhile (· != '/'))
  | _ => false

def isTabOrLineBreak (c : Char) : Bool :=
  c == '\t' || c == '\n' || c == '\r'

/-- The locator with one more segment in its path; dot segments are passed over. -/
def addSegment (u : Url) (segment : List Char) : Url :=
  if segment == ['.'] || segment == ['.', '.'] then u
  else
    let kind := SchemeKind.ofScheme u.scheme
    let path := if u.path == ['/'] then u.path else u.path ++ ['/']
    let written := segment.filter fun c => !isTabOrLineBreak c
    let segment := Text.percentEncode (escapedInSegment kind.isSpecial) written
    { u with path := withOneSlash kind (appendSegment kind path segment false) }

/-- The locator with more segments in its path, after a slash that may stand at its end. -/
def addSegments (u : Url) (segments : List (List Char)) : Url :=
  let path := if u.path.length ≤ 1 then u.path
    else if endsWithSlash u.path then u.path.dropLast else u.path
  segments.foldl addSegment { u with path }

end ChatTelemetry.Url
