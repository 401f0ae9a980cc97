import ChatTelemetry.Text.Percent
import ChatTelemetry.Url.Address
/-!
Uniform resource locators: their parts and their text.
-/

namespace ChatTelemetry

inductive Url.Host
  | domain (name : List Char)
  | ipv4 (address : Nat)
  | ipv6 (pieces : List Nat)
deriving DecidableEq, Repr, Inhabited

/-- What stands between `//` and the path. -/
structure Url.Authority where
  username : List Char := []
  password : List Char := []
  host : Option Url.Host := none
  port : Option Nat := none
deriving DecidableEq, Repr, Inhabited

/-- A locator. Its texts are as they are written, escapes included. -/
structure Url where
  scheme : List Char
  authority : Option Url.Authority := none
  path : List Char := []
  query : Option (List Char) := none
  fragment : Option (List Char) := none
deriving DecidableEq, Repr, Inhabited

namespace Url

/-! ### The characters that are escaped in each part -/

def isControl (c : Char) : Bool :=
  c.toNat < 0x20 || c.toNat == 0x7f

def escapedInFragment (c : Char) : Bool :=
  isControl c || c == ' ' || c == '"' || c == '<' || c == '>' || c == '\x60'

def escapedInPath (c : Char) : Bool :=
  escapedInFragment c || c == '#' || c == '?' || c == '\x7b' || c == '\x7d'

def escapedInUserinfo (c : Char) : Bool :=
  escapedInPath c || "/:;=@[\\]^|".toList.contains c

def escapedInQuery (isSpecial : Bool) (c : Char) : Bool :=
  isControl c || c == ' ' || c == '"' || c == '#' || c == '<' || c == '>' ||
    (isSpecial && c == '\'')

def escapedInSegment (isSpecial : Bool) (c : Char) : Bool :=
  escapedInPath c || c == '/' || c == '%' || (isSpecial && c == '\\')

/-! ### Schemes -/

/-- Schemes whose locators always have a host, the default port of each. -/
def webPorts : List (List Char × Nat) :=
  [ ("http".toList, 80), ("https".toList, 443), ("ws".toList, 80), ("wss".toList, 443),
    ("ftp".toList, 21) ]

inductive SchemeKind
  | file
  | web
  | other
deriving DecidableEq, Repr

def SchemeKind.ofScheme (scheme : List Char) : SchemeKind :=
  if scheme = "file".toList then .file
  else if (webPorts.lookup scheme).isSome then .web
  else .other

def SchemeKind.isSpecial : SchemeKind → Bool
  | other => false
  | _ => true

/-! ### Text -/

def Host.chars : Host → List Char
  | domain name => name
  | ipv4 address => ipv4Chars address
  | ipv6 pieces => '[' :: (ipv6Chars pieces ++ [']'])

def Authority.userinfoChars (a : Authority) : List Char :=
  if a.username.isEmpty && a.password.isEmpty then []
  else a.username ++ (if a.password.isEmpty then [] else ':' :: a.password) ++ ['@']

def Authority.portChars (a : Authority) : List Char :=
  match a.port with
  | none => []
  | some port => ':' :: Nat.toDigits 10 port

def Authority.chars (a : Authority) : List Char :=
  '/' :: '/' :: (a.userinfoChars ++ (a.host.map Host.chars).getD [] ++ a.portChars)

/-- What stands before the path; a path that would read as an authority is marked. -/
def beforePath (u : Url) : List Char :=
  match u.authority with
  | some a => a.chars
  | none => if ['/', '/'].isPrefixOf u.path then ['/', '.'] else []

def markedChars (mark : Char) : Option (List Char) → List Char
  | none => []
  | some cs => mark :: cs

/-- The path and the query, as they are sent to a host. -/
def targetChars (u : Url) : List Char :=
  u.path ++ markedChars '?' u.query

def chars (u : Url) : List Char :=
  u.scheme ++ ':' :: (u.beforePath ++ u.targetChars ++ markedChars '#' u.fragment)

def text (u : Url) : String :=
  .ofList u.chars

/-- The name of the host; none if it is empty. -/
def host? (u : Url) : Option (List Char) :=
  (u.authority.bind (·.host)).map Host.chars

/-- The port that is asked; without one, that of the scheme. -/
def port? (u : Url) : Option Nat :=
  (u.authority.bind (·.port)).or (webPorts.lookup u.scheme)

def isSameHost (u v : Url) : Bool :=
  u.host? == v.host? && u.port? == v.port?

def canBeBase (u : Url) : Bool :=
  u.authority.isSome || ['/'].isPrefixOf u.path

end Url
end ChatTelemetry
