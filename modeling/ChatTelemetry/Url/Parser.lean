import ChatTelemetry.Text.Blank
import ChatTelemetry.Url.Domain
import ChatTelemetry.Url.Path
/-!
Reading locators.
-/

namespace ChatTelemetry.Url

/-- Why a text is no locator. -/
inductive ParseError
  | noScheme
  | emptyHost
  | invalidPort
  | invalidIpv4
  | invalidIpv6
  | invalidDomainCharacter
  | invalidDomain
deriving DecidableEq, Repr, Inhabited

def ParseError.message : ParseError → String
  | noScheme => "relative URL without a base"
  | emptyHost => "empty host"
  | invalidPort => "invalid port number"
  | invalidIpv4 => "invalid IPv4 address"
  | invalidIpv6 => "invalid IPv6 address"
  | invalidDomainCharacter => "invalid domain character"
  | invalidDomain => "invalid international domain name"

def isSlash (kind : SchemeKind) (c : Char) : Bool :=
  c == '/' || (kind.isSpecial && c == '\\')

def endsAuthority (kind : SchemeKind) (c : Char) : Bool :=
  isSlash kind c || c == '?' || c == '#'

def isSchemeChar (c : Char) : Bool :=
  isAsciiLetter c || isAsciiDigit c || c == '+' || c == '-' || c == '.'

def scheme? (cs : List Char) : Option (List Char × List Char) :=
  match cs with
  | [] => none
  | c :: _ =>
    match isAsciiLetter c, cs.dropWhile isSchemeChar with
    | true, ':' :: rest => some ((cs.takeWhile isSchemeChar).map Char.toLower, rest)
    | _, _ => none

/-! ### Hosts -/

def bracketedHost (cs : List Char) : Except ParseError Host :=
  match Text.dropEnd? [']'] cs with
  | none => .error .invalidIpv6
  | some inner =>
    match ipv6? inner with
    | none => .error .invalidIpv6
    | some pieces => .ok (.ipv6 pieces)

def isForbiddenInHost (c : Char) : Bool :=
  c == '\x00' || c == '\t' || c == '\n' || c == '\r' || " #/:<>?@[\\]^|".toList.contains c

/-- The host of a locator whose hosts need not be domain names. -/
def plainHost (cs : List Char) : Except ParseError Host :=
  match cs with
  | '[' :: rest => bracketedHost rest
  | cs =>
    if cs.any isForbiddenInHost then .error .invalidDomainCharacter
    else .ok (.domain (Text.percentEncode isControl cs))

def domainHost (cs : List Char) : Except ParseError Host :=
  match cs with
  | '[' :: rest => bracketedHost rest
  | cs =>
    match (Text.ofUtf8? (Text.percentDecode cs)).bind domainToAscii? with
    | none => .error .invalidDomain
    | some [] => .error .emptyHost
    | some name =>
      if endsInNumber name then
        match ipv4? name with
        | some address => .ok (.ipv4 address)
        | none => .error .invalidIpv4
      else .ok (.domain name)

/-- The text of a host and what follows it; a colon between brackets belongs to the host. -/
def hostText (kind : SchemeKind) (bracketed : Bool) : List Char → List Char × List Char
  | [] => ([], [])
  | c :: cs =>
    if endsAuthority kind c || (c == ':' && !bracketed) then ([], c :: cs)
    else
      let (host, rest) := hostText kind (c == '[' || (bracketed && c != ']')) cs
      (c :: host, rest)

/-- A port, none if it is left out or the default of the scheme, and what follows it. -/
def port (scheme : List Char) (cs : List Char) : Except ParseError (Option Nat × List Char) :=
  let ds := cs.takeWhile isAsciiDigit
  let rest := cs.dropWhile isAsciiDigit
  let n := ds.foldl (fun n d => n * 10 + (d.toNat - '0'.toNat)) 0
  let ends := match rest with
    | [] => true
    | c :: _ => c == '/' || c == '\\' || c == '?' || c == '#'
  if n > 65535 || !ends then .error .invalidPort
  else .ok (if ds.isEmpty || webPorts.lookup scheme == some n then none else some n, rest)

/-! ### The authority -/

/-- The text before the last `@` of the authority and what follows it. -/
def userinfoText? (kind : SchemeKind) (cs : List Char) : Option (List Char × List Char) :=
  let authority := cs.takeWhile fun c => !endsAuthority kind c
  if authority.contains '@' then
    let after := authority.reverse.takeWhile (· != '@')
    some (authority.take (authority.length - after.length - 1),
      cs.drop (authority.length - after.length))
  else none

/-- The username and the password, and what follows them. -/
def userinfo (kind : SchemeKind) (cs : List Char) :
    Except ParseError (List Char × List Char × List Char) :=
  match userinfoText? kind cs with
  | none => .ok ([], [], cs)
  | some ([], rest) =>
    match rest with
    | c :: _ => if endsAuthority kind c then .error .emptyHost else .ok ([], [], rest)
    | [] => .ok ([], [], [])
  | some (info, rest) =>
    let encode := Text.percentEncode escapedInUserinfo
    match Text.cutAt? ':' info with
    | some (username, password) => .ok (encode username, encode password, rest)
    | none => .ok (encode info, [], rest)

/-- What stands between `//` and the path, and what follows it. -/
def readAuthority (scheme : List Char) (cs : List Char) :
    Except ParseError (Authority × List Char) := do
  let kind := SchemeKind.ofScheme scheme
  let (username, password, cs) ← userinfo kind cs
  let (text, rest) := hostText kind false cs
  if text.isEmpty && kind == .web then .error .emptyHost
  else
    let host ← if kind == .web then domainHost text else plainHost text
    let isEmpty := host == .domain []
    if isEmpty && [':'].isPrefixOf rest then .error .emptyHost
    else
      let (port, rest) ← match rest with
        | ':' :: rest => port scheme rest
        | rest => .ok (none, rest)
      if isEmpty && !(username.isEmpty && password.isEmpty) then .error .emptyHost
      else .ok (⟨username, password, if isEmpty then none else some host, port⟩, rest)

/-! ### The rest -/

def endsPath (c : Char) : Bool :=
  c == '?' || c == '#'

def queryAndFragment (kind : SchemeKind) (cs : List Char) :
    Option (List Char) × Option (List Char) :=
  let fragment := fun cs => some (Text.percentEncode escapedInFragment cs)
  match cs with
  | '?' :: rest =>
    let query := some <|
      Text.percentEncode (escapedInQuery kind.isSpecial) (rest.takeWhile (· != '#'))
    match rest.dropWhile (· != '#') with
    | '#' :: rest => (query, fragment rest)
    | _ => (query, none)
  | '#' :: rest => (none, fragment rest)
  | _ => (none, none)

/-- A locator from its authority and what follows it; `path` is what its path begins with. -/
def withRest (scheme : List Char) (authority : Option Authority) (path rest : List Char) : Url :=
  let kind := SchemeKind.ofScheme scheme
  let text := rest.takeWhile fun c => !endsPath c
  let (query, fragment) := queryAndFragment kind (rest.dropWhile fun c => !endsPath c)
  ⟨scheme, authority, appendSegments kind path text, query, fragment⟩

def afterAuthority (scheme : List Char) (a : Authority) (rest : List Char) : Url :=
  let kind := SchemeKind.ofScheme scheme
  match rest with
  | c :: cs =>
    if kind.isSpecial then withRest scheme (some a) ['/'] (if isSlash kind c then cs else c :: cs)
    else if c == '/' || endsPath c then withRest scheme (some a) [] (c :: cs)
    else withRest scheme (some a) ['/'] (c :: cs)
  | [] => withRest scheme (some a) (if kind.isSpecial then ['/'] else []) []

/-- The host of a file locator and what follows it; none for this machine. -/
def fileHost (cs : List Char) : Except ParseError (Option Host × List Char) := do
  let text := cs.takeWhile fun c => !endsAuthority .file c
  let rest := cs.dropWhile fun c => !endsAuthority .file c
  if isDriveLetter text then .ok (none, cs)
  else if text.isEmpty then .ok (none, rest)
  else
    let host ← domainHost text
    .ok (if host == .domain "localhost".toList then none else some host, rest)

/-- A file locator whose path begins with one slash; with a drive letter there it has no host. -/
def settledFile (u : Url) : Url :=
  { u with
    authority := if startsWithDriveLetter u.path then some {} else u.authority
    path := withOneSlash .file u.path }

def fileUrl (cs : List Char) : Except ParseError Url := do
  let scheme := "file".toList
  match cs with
  | a :: b :: rest =>
    if isSlash .file a && isSlash .file b then
      match ← fileHost rest with
      | (none, rest) => .ok (settledFile (withoutHost scheme rest))
      | (some host, rest) => .ok (settledFile (afterAuthority scheme { host := some host } rest))
    else .ok (settledFile (withoutHost scheme cs))
  | cs => .ok (settledFile (withoutHost scheme cs))
where
  withoutHost (scheme cs : List Char) : Url :=
    match cs with
    | c :: _ => withRest scheme (some {}) (if isSlash .file c then [] else ['/']) cs
    | [] => withRest scheme (some {}) ['/'] []

/-- What follows the colon of a locator of no special scheme. -/
def otherUrl (scheme cs : List Char) : Except ParseError Url :=
  match cs with
  | '/' :: '/' :: rest => do
    let (a, rest) ← readAuthority scheme rest
    .ok (afterAuthority scheme a rest)
  | '/' :: rest => .ok (withRest scheme none ['/'] rest)
  | cs =>
    let path := Text.percentEncode isControl (cs.takeWhile fun c => !endsPath c)
    let (query, fragment) := queryAndFragment .other (cs.dropWhile fun c => !endsPath c)
    .ok ⟨scheme, none, path, query, fragment⟩

/--
The locator that a text is; blanks and controls around it, and line breaks in it, do not count.
-/
def parse (s : String) : Except ParseError Url :=
  let cs := (Text.strip (· ≤ ' ') s.toList).filter fun c => !isTabOrLineBreak c
  match scheme? cs with
  | none => .error .noScheme
  | some (scheme, rest) =>
    match SchemeKind.ofScheme scheme with
    | .file => fileUrl rest
    | .web => do
      let (a, rest) ← readAuthority scheme (rest.dropWhile (isSlash .web))
      .ok (afterAuthority scheme a rest)
    | .other => otherUrl scheme rest

end ChatTelemetry.Url
