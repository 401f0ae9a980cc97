import ChatTelemetry.Json.Fault
import ChatTelemetry.Json.Value
/-!
Numbers in JSON texts.

A number is first cut out as a `Literal` and then given its value. A literal without fraction and
exponent is an integer if it fits 64 bits. The value of any other takes the digits that fit 64 bits
as a significand, rounds it, and scales it by one power of ten: this is near the nearest double,
though not always equal to it.
-/

namespace ChatTelemetry.Json

structure Literal where
  negative : Bool
  whole : List Char
  /-- The digits after the point, if there is one. -/
  fraction : Option (List Char)
  /-- Whether the exponent is negative, and its digits. -/
  exponent : Option (Bool × List Char)
deriving DecidableEq, Repr

def isDigit (c : Char) : Bool :=
  '0' ≤ c && c ≤ '9'

def digitValue (c : Char) : Nat :=
  c.toNat - '0'.toNat

namespace Literal

/-- The digits at the front, of which there has to be one. -/
def digits (cs : List Char) : Except Fault (List Char × List Char) :=
  match cs with
  | [] => .error .truncated
  | c :: _ =>
    if isDigit c then .ok (cs.takeWhile isDigit, cs.dropWhile isDigit) else .error .malformed

/-- Digits without a leading zero, or a lone zero. -/
def wholePart (cs : List Char) : Except Fault (List Char × List Char) :=
  match cs with
  | '0' :: c :: rest => if isDigit c then .error .malformed else .ok (['0'], c :: rest)
  | cs => digits cs

def fractionPart (cs : List Char) : Except Fault (Option (List Char) × List Char) :=
  match cs with
  | '.' :: rest => do
    let (ds, rest) ← digits rest
    return (some ds, rest)
  | cs => .ok (none, cs)

def exponentPart (cs : List Char) : Except Fault ((Option (Bool × List Char)) × List Char) :=
  match cs with
  | c :: rest =>
    if c == 'e' || c == 'E' then
      match rest with
      | '+' :: rest => unsigned false rest
      | '-' :: rest => unsigned true rest
      | rest => unsigned false rest
    else .ok (none, c :: rest)
  | [] => .ok (none, [])
where
  unsigned (negative : Bool) (cs : List Char) :
      Except Fault ((Option (Bool × List Char)) × List Char) := do
    let (ds, rest) ← digits cs
    return (some (negative, ds), rest)

def read (cs : List Char) : Except Fault (Literal × List Char) :=
  match cs with
  | '-' :: rest => unsigned true rest
  | cs => unsigned false cs
where
  unsigned (negative : Bool) (cs : List Char) : Except Fault (Literal × List Char) := do
    let (whole, cs) ← wholePart cs
    let (fraction, cs) ← fractionPart cs
    let (exponent, cs) ← exponentPart cs
    return (⟨negative, whole, fraction, exponent⟩, cs)

/-- Appends digits to a significand as long as it fits 64 bits; the digits left over come second. -/
def absorb (significand : Nat) : List Char → Nat × List Char
  | [] => (significand, [])
  | d :: ds =>
    let next := significand * 10 + digitValue d
    if next < Nat.pow 2 64 then absorb next ds else (significand, d :: ds)

def natValue (ds : List Char) : Nat :=
  ds.foldl (fun n d => n * 10 + digitValue d) 0

/-- Divides by `10 ^ e`, in steps that stay within the powers of ten a double can hold. -/
def scaleDown (x : Double) (e : Nat) : Double :=
  if e ≤ 308 then x.overPowerOfTen e
  else if x.magnitude == 0 then x
  else scaleDown (x.overPowerOfTen 308) (e - 308)
termination_by e

/-- A significand times a power of ten; none if that is beyond the largest double. -/
def scaled? (significand : Nat) (exponent : Int) : Option Double :=
  let x := Double.ofNat significand
  match exponent with
  | .negSucc e => some (scaleDown x (e + 1))
  | .ofNat e =>
    if x.magnitude == 0 then some x
    else if e ≤ 308 then
      let y := x.timesPowerOfTen e
      if y.isInfinite then none else some y
    else none

/-- The value as a double; none if it is beyond the largest one. -/
def double? (l : Literal) : Option Double :=
  let (significand, left) := absorb 0 l.whole
  let ds := l.fraction.getD []
  let (significand, dropped) := absorb significand ds
  let written : Int := match l.exponent with
    | none => 0
    | some (true, ds) => -(natValue ds : Int)
    | some (false, ds) => natValue ds
  let exponent := left.length - (ds.length - dropped.length : Nat) + written
  (scaled? significand exponent).map fun x => if l.negative then x.neg else x

/-- Whether the literal has neither a fraction nor an exponent. -/
def isWhole (l : Literal) : Bool :=
  l.fraction.isNone && l.exponent.isNone

/-- The value of a literal; none if it is beyond the largest double. -/
def value? (l : Literal) : Option Value :=
  let n := natValue l.whole
  if l.isWhole && !l.negative && n < Nat.pow 2 64 then some (.int n)
  else if l.isWhole && l.negative && 0 < n && n ≤ Nat.pow 2 63 then some (.int (-n))
  else l.double?.map .double

end Literal
end ChatTelemetry.Json
