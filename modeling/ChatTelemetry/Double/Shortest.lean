import ChatTelemetry.Double
/-!
The shortest decimal that reads back as a given number.

`Double.shortest` looks, for one digit, two digits and so on up to seventeen, at the two decimals of
that many digits next to the number, and takes the first that lies in the interval of reals rounding
to it.
-/

namespace ChatTelemetry

/-- The decimal `0.d₁d₂… × 10 ^ point`. -/
structure Decimal where
  digits : List Char
  point : Int
deriving DecidableEq, Repr, Inhabited

inductive TieRule
  | toEven
  | up
deriving DecidableEq, Repr

namespace Double

/-- Compares `digits * 10 ^ exponent` with `units * 2 ^ -1075`. -/
def compareDecimal (digits : Nat) (exponent : Int) (units : Nat) : Ordering :=
  match exponent with
  | .ofNat e => compare (digits * Nat.pow 10 e * Nat.pow 2 1075) units
  | .negSucc e => compare (digits * Nat.pow 2 1075) (units * Nat.pow 10 (e + 1))

def readsBack (magnitude : Nat) (digits : Nat) (exponent : Int) : Bool :=
  let here := unitsOfMagnitude magnitude
  let below := compareDecimal digits exponent (unitsOfMagnitude (magnitude - 1) + here)
  let above := compareDecimal digits exponent (here + unitsOfMagnitude (magnitude + 1))
  if magnitude % 2 == 0 then below != .lt && above != .gt else below == .gt && above == .lt

def decimalExponent (units : Nat) : Int :=
  ((Nat.toDigits 10 (units * Nat.pow 10 340 / Nat.pow 2 1074)).length : Int) - 341

/-- The quotient of a number of units by `10 ^ exponent`, as numerator and denominator. -/
def overDecimal (units : Nat) (exponent : Int) : Nat × Nat :=
  match exponent with
  | .ofNat e => (units, Nat.pow 10 e * Nat.pow 2 1074)
  | .negSucc e => (units * Nat.pow 10 (e + 1), Nat.pow 2 1074)

/-- The nearest of the neighbouring decimals on the grid `10 ^ exponent` that reads back. -/
def onGrid (tie : TieRule) (magnitude : Nat) (exponent : Int) : Option Nat :=
  let (num, den) := overDecimal (unitsOfMagnitude magnitude) exponent
  let low := num / den
  let twice := 2 * (num % den)
  match readsBack magnitude low exponent, readsBack magnitude (low + 1) exponent with
  | false, false => none
  | true, false => some low
  | false, true => some (low + 1)
  | true, true =>
    if twice < den then some low
    else if twice > den then some (low + 1)
    else match tie with
      | .up => some (low + 1)
      | .toEven => some (if low % 2 == 0 then low else low + 1)

/-- The digits of a number without its trailing zeros. -/
def significantDigits (n : Nat) : List Char :=
  ((Nat.toDigits 10 n).reverse.dropWhile (· == '0')).reverse

def shortest (tie : TieRule) (x : Double) : Decimal :=
  let leading := decimalExponent x.units
  let found := (List.range 17).findSome? fun (n : Nat) =>
    (onGrid tie x.magnitude (leading - n)).map (·, leading - n)
  match found with
  | none => ⟨['0'], 1⟩
  | some (digits, exponent) =>
    ⟨significantDigits digits, (Nat.toDigits 10 digits).length + exponent⟩

end Double
end ChatTelemetry
