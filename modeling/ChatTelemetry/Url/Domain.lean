import ChatTelemetry.Text.Composition
import ChatTelemetry.Text.Direction
import ChatTelemetry.Text.Blank
import ChatTelemetry.Text.Joining
import ChatTelemetry.Text.Segments
import ChatTelemetry.Url.DomainMapping
import ChatTelemetry.Url.Punycode
/-!
Domain names in the form in which they are looked up.

Every character is replaced by its plain form; labels with characters beyond ASCII are checked and
written in ASCII, marked by `xn--`, and labels that are written so already are checked as what they
stand for.
-/

namespace ChatTelemetry.Url

/-- The characters that no domain name has. -/
def isForbiddenInDomain (c : Char) : Bool :=
  c.toNat ≤ 0x20 || c.toNat == 0x7f || "%#/:<>?@[\\]^|".toList.contains c

def plainForm? (c : Char) : Option (List Char) :=
  if c.toNat < 0x80 then some [c.toLower] else replacement? c

def isPlain (c : Char) : Bool :=
  !isForbiddenInDomain c && c != '.' && plainForm? c == some [c]

def isAscii (cs : List Char) : Bool :=
  cs.all fun c => c.toNat < 0x80

/-! ### Labels -/

structure Label where
  text : List Char
  lookup : List Char

/-- Whether a mark that keeps or breaks a ligature may stand after `before`, which is in reverse. -/
def isJoinerAllowed (joiner : Char) (before after : List Char) : Bool :=
  let isVirama := (before.head?.map fun c => Text.combiningClass c == 9).getD false
  let letterBefore := (before.dropWhile Text.isTransparent).head?
  let letterAfter := (after.dropWhile Text.isTransparent).head?
  isVirama || (joiner == '\u200c' && (letterBefore.map Text.joinsAfter).getD false &&
    (letterAfter.map Text.joinsBefore).getD false)

/-- Whether all joiners of a label are allowed where they stand; `before` is in reverse. -/
def hasAllowedJoiners (before : List Char) : List Char → Bool
  | [] => true
  | c :: cs =>
    (if c == '\u200c' || c == '\u200d' then isJoinerAllowed c before cs else true) &&
      hasAllowedJoiners (c :: before) cs

/--
Whether a text is a label: in composed form, of plain characters, with no mark at its beginning.
-/
def isLabel (cs : List Char) : Bool :=
  Text.composed cs == cs && cs.all isPlain && !(cs.head?.map Text.isMark).getD false &&
    hasAllowedJoiners [] cs

def asciiMark : List Char := "xn--".toList

def label? (cs : List Char) : Option Label :=
  match Text.dropStart? asciiMark cs, isAscii cs with
  | some _, false => none
  | some encoded, true => do
    let text ← Punycode.decode? encoded
    if isAscii text || !isLabel text then none else some ⟨text, cs⟩
  | none, true => if cs.all isPlain then some ⟨cs, cs⟩ else none
  | none, false => if isLabel cs then some ⟨cs, asciiMark ++ Punycode.encode cs⟩ else none

/-! ### Directions -/

def isRightToLeft (d : Text.Direction) : Bool :=
  d == .rightToLeft || d == .arabicDigit

def isWellDirected (label : List Char) : Bool :=
  let ds := label.map Text.direction
  let last := (Text.dropEndWhile (· == .inherited) ds).getLast?
  match ds.head? with
  | none => true
  | some .rightToLeft =>
    ds.all (· != .leftToRight) &&
      (last == some .rightToLeft || last == some .europeanDigit || last == some .arabicDigit) &&
      !(ds.contains .europeanDigit && ds.contains .arabicDigit)
  | some .leftToRight =>
    ds.all (!isRightToLeft ·) && (last == some .leftToRight || last == some .europeanDigit)
  | some _ => false

/-- The form of a domain name in which it is looked up; none if it is no domain name. -/
def domainToAscii? (cs : List Char) : Option (List Char) := do
  let plain := Text.composed (← cs.mapM plainForm?).flatten
  let labels ← (Text.segments '.' plain).mapM label?
  let isDirected := labels.any fun l => l.text.any fun c => isRightToLeft (Text.direction c)
  if isDirected && !labels.all fun l => isWellDirected l.text then none
  else return Text.join ['.'] (labels.map (·.lookup))

end ChatTelemetry.Url
