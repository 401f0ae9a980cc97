import ChatTelemetry.Text.Hex
import ChatTelemetry.Text.Segments
/-!
Numbers and dates in configuration documents.
-/

namespace ChatTelemetry.Toml

def isDigit (c : Char) : Bool :=
  '0' ≤ c && c ≤ '9'

def isDigits (isDigit : Char → Bool) (cs : List Char) : Bool :=
  (Text.segments '_' cs).all fun s => !s.isEmpty && s.all isDigit

def withoutSign (cs : List Char) : List Char :=
  match cs with
  | '+' :: rest | '-' :: rest => rest
  | cs => cs

/-- Digits of a whole number in base ten, which begin with no zero but a lone one. -/
def isWhole (cs : List Char) : Bool :=
  match cs with
  | '0' :: _ :: _ => false
  | cs => isDigits isDigit cs

def isHexDigit (c : Char) : Bool :=
  (Text.hexValue? c).isSome

def isInteger (cs : List Char) : Bool :=
  match cs with
  | '0' :: 'x' :: rest => isDigits isHexDigit rest
  | '0' :: 'o' :: rest => isDigits (fun c => '0' ≤ c && c ≤ '7') rest
  | '0' :: 'b' :: rest => isDigits (fun c => c == '0' || c == '1') rest
  | cs => isWhole (withoutSign cs)

/-- A whole number with a fraction, an exponent or both. -/
def isFraction (cs : List Char) : Bool :=
  let isExponent := fun (c : Char) => c == 'e' || c == 'E'
  let mantissa := cs.takeWhile fun c => !isExponent c
  let exponent := cs.dropWhile fun c => !isExponent c
  let exponentFits := exponent.isEmpty || isDigits isDigit (withoutSign (exponent.drop 1))
  let mantissaFits := match Text.cutAt? '.' mantissa with
    | some (whole, fraction) => isWhole whole && isDigits isDigit fraction
    | none => isWhole mantissa && !exponent.isEmpty
  exponentFits && mantissaFits

def isFloat (cs : List Char) : Bool :=
  let cs := withoutSign cs
  cs == "inf".toList || cs == "nan".toList || isFraction cs

/-- The number that exactly `count` digits at the front stand for, and what follows them. -/
def fixedDigits? (count : Nat) (cs : List Char) : Option (Nat × List Char) :=
  let ds := cs.take count
  if ds.length == count && ds.all isDigit then
    some (ds.foldl (fun n d => n * 10 + (d.toNat - '0'.toNat)) 0, cs.drop count)
  else none

def isLeapYear (year : Nat) : Bool :=
  year % 4 == 0 && (year % 100 != 0 || year % 400 == 0)

def daysInMonth (year month : Nat) : Nat :=
  match month with
  | 2 => if isLeapYear year then 29 else 28
  | 4 | 6 | 9 | 11 => 30
  | _ => 31

def date? (cs : List Char) : Option (List Char) := do
  let (year, rest) ← fixedDigits? 4 cs
  let (month, rest) ← fixedDigits? 2 (← Text.dropStart? ['-'] rest)
  let (day, rest) ← fixedDigits? 2 (← Text.dropStart? ['-'] rest)
  if 1 ≤ month && month ≤ 12 && 1 ≤ day && day ≤ daysInMonth year month then some rest else none

def secondFraction? (cs : List Char) : Option (List Char) :=
  match cs with
  | '.' :: d :: rest => if isDigit d then some (rest.dropWhile isDigit) else none
  | '.' :: [] => none
  | cs => some cs

/-- Passes over a time of day, with or without seconds. -/
def time? (cs : List Char) : Option (List Char) := do
  let (hour, rest) ← fixedDigits? 2 cs
  let (minute, rest) ← fixedDigits? 2 (← Text.dropStart? [':'] rest)
  if 23 < hour || 59 < minute then none
  else
    match rest with
    | ':' :: rest => do
      let (second, rest) ← fixedDigits? 2 rest
      if 60 < second then none else secondFraction? rest
    | rest => some rest

/-- Whether a text is a time zone, or nothing. -/
def isOffset (cs : List Char) : Bool :=
  match cs with
  | [] | ['Z'] | ['z'] => true
  | '+' :: rest | '-' :: rest =>
    ((do
      let (hour, rest) ← fixedDigits? 2 rest
      let (minute, rest) ← fixedDigits? 2 (← Text.dropStart? [':'] rest)
      return hour ≤ 23 && minute ≤ 59 && rest.isEmpty : Option Bool)).getD false
  | _ => false

/-- Whether a text is a date, a time or both. -/
def isDateTime (cs : List Char) : Bool :=
  match date? cs with
  | some [] => true
  | some (c :: rest) =>
    (c == 'T' || c == 't' || c == ' ') && ((time? rest).map isOffset).getD false
  | none => time? cs == some []

def isScalarChar (c : Char) : Bool :=
  isDigit c || ('a' ≤ c && c ≤ 'z') || ('A' ≤ c && c ≤ 'Z') || "+-_.:".toList.contains c

/--
The text of a number or a date and what follows it; one blank may stand between a date and a time.
-/
def scalarText (cs : List Char) : List Char × List Char :=
  let text := cs.takeWhile isScalarChar
  match date? text, cs.dropWhile isScalarChar with
  | some [], ' ' :: d :: rest =>
    if isDigit d then
      (text ++ ' ' :: (d :: rest).takeWhile isScalarChar, (d :: rest).dropWhile isScalarChar)
    else (text, ' ' :: d :: rest)
  | _, rest => (text, rest)

def isScalar (cs : List Char) : Bool :=
  isInteger cs || isFloat cs || isDateTime cs

end ChatTelemetry.Toml
