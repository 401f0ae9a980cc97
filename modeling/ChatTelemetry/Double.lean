/-!
Floating-point numbers of 64 bits, held as their bits.

A finite number is a whole number of units of `2 ^ -1074`, so every operation here is exact
arithmetic on naturals followed by one rounding, `Double.ofUnits`, to the nearest representable
number (a tie goes to the even one).
-/

namespace ChatTelemetry

structure Double where
  bits : UInt64
deriving DecidableEq, Repr, Inhabited

namespace Double

/-- The bit pattern of infinity; the patterns above it, up to the sign bit, are not numbers. -/
def infinityBits : Nat := 2047 * Nat.pow 2 52

def magnitude (x : Double) : Nat :=
  x.bits.toNat % Nat.pow 2 63

def negative (x : Double) : Bool :=
  Nat.pow 2 63 ≤ x.bits.toNat

def isNaN (x : Double) : Bool :=
  infinityBits < x.magnitude

def isInfinite (x : Double) : Bool :=
  x.magnitude == infinityBits

/-- The number of units of `2 ^ -1074` that the bits below the sign bit stand for. -/
def unitsOfMagnitude (magnitude : Nat) : Nat :=
  match magnitude / Nat.pow 2 52 with
  | 0 => magnitude
  | e + 1 => (Nat.pow 2 52 + magnitude % Nat.pow 2 52) * Nat.pow 2 e

/--
The absolute value in units of `2 ^ -1074`; infinity lies one step above the largest finite number.
-/
def units (x : Double) : Nat :=
  unitsOfMagnitude x.magnitude

/-- The value in units of `2 ^ -1074`. -/
def signedUnits (x : Double) : Int :=
  if x.negative then -(x.units : Int) else x.units

def ofMagnitude (negative : Bool) (magnitude : Nat) : Double :=
  ⟨.ofNat (if negative then Nat.pow 2 63 + magnitude else magnitude)⟩

/-- The quotient rounded to the nearest natural, a tie to the even one. -/
def roundDiv (num den : Nat) : Nat :=
  let q := num / den
  let r := num % den
  if 2 * r > den || (2 * r == den && q % 2 == 1) then q + 1 else q

/-- The number nearest to `num / den` units of `2 ^ -1074`; beyond the largest one, infinity. -/
def ofUnits (negative : Bool) (num den : Nat) : Double :=
  let shift := (num / den).log2 - 52
  let magnitude := shift * Nat.pow 2 52 + roundDiv num (den * Nat.pow 2 shift)
  ofMagnitude negative (min magnitude infinityBits)

def zero : Double := ⟨0⟩

def negativeZero : Double := ofMagnitude true 0

/-- The result of an operation that has none. -/
def invalid : Double := ofMagnitude true (infinityBits + Nat.pow 2 51)

def largest : Double := ofMagnitude false (infinityBits - 1)

def ofNat (n : Nat) : Double :=
  ofUnits false (n * Nat.pow 2 1074) 1

def ofInt (n : Int) : Double :=
  ofUnits (n < 0) (n.natAbs * Nat.pow 2 1074) 1

def neg (x : Double) : Double :=
  ofMagnitude (!x.negative) x.magnitude

/-- The number nearest to `10 ^ k`. -/
def powerOfTen (k : Nat) : Double :=
  ofNat (Nat.pow 10 k)

/-- A finite number times the number nearest to `10 ^ k`. -/
def timesPowerOfTen (x : Double) (k : Nat) : Double :=
  ofUnits x.negative (x.units * (powerOfTen k).units) (Nat.pow 2 1074)

/-- A finite number divided by the number nearest to `10 ^ k`. -/
def overPowerOfTen (x : Double) (k : Nat) : Double :=
  ofUnits x.negative (x.units * Nat.pow 2 1074) (powerOfTen k).units

/-- What is not a number, marked as quiet. -/
def quieted (x : Double) : Double :=
  if x.magnitude / Nat.pow 2 51 % 2 == 1 then x
  else ofMagnitude x.negative (x.magnitude + Nat.pow 2 51)

/--
The sum. What is not a number is passed on, the left one first; opposite infinities have no sum; a
sum of zero is negative only if both terms are.
-/
def add (x y : Double) : Double :=
  if x.isNaN then x.quieted
  else if y.isNaN then y.quieted
  else if x.isInfinite then
    if y.isInfinite && x.negative != y.negative then invalid else x
  else if y.isInfinite then y
  else
    let sum := x.signedUnits + y.signedUnits
    if sum == 0 then
      if x.negative && y.negative then negativeZero else zero
    else
      ofUnits (sum < 0) sum.natAbs 1

/-- Numerical order; false when one side is not a number. -/
def lt (x y : Double) : Bool :=
  !x.isNaN && !y.isNaN && x.signedUnits < y.signedUnits

/-- Numerical equality: the two zeros are equal and what is not a number equals nothing. -/
def same (x y : Double) : Bool :=
  !x.isNaN && !y.isNaN && x.signedUnits == y.signedUnits

end Double
end ChatTelemetry
