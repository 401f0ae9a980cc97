import ChatTelemetry.Double.Shortest
/-!
The text of a number: its shortest digits, laid out with or without an exponent.
-/

namespace ChatTelemetry

structure NumberLayout where
  tie : TieRule
  /-- The exponents of the leading digit that are written without an exponent. -/
  positional : Int → Bool
  /-- What follows a whole number written without an exponent. -/
  wholeMark : List Char

namespace NumberLayout

/-- Digits with a decimal point and no exponent. -/
def positionalText (wholeMark : List Char) (d : Decimal) : List Char :=
  let count := d.digits.length
  if d.point ≤ 0 then
    '0' :: '.' :: (List.replicate (-d.point).toNat '0' ++ d.digits)
  else if count ≤ d.point.toNat then
    d.digits ++ List.replicate (d.point.toNat - count) '0' ++ wholeMark
  else
    d.digits.take d.point.toNat ++ '.' :: d.digits.drop d.point.toNat

/-- One digit, the others after a point, and a signed exponent. -/
def exponentText (d : Decimal) : List Char :=
  let exponent := d.point - 1
  let fraction := if d.digits.length ≤ 1 then [] else '.' :: d.digits.drop 1
  let sign := if exponent < 0 then '-' else '+'
  d.digits.take 1 ++ fraction ++ 'e' :: sign :: Nat.toDigits 10 exponent.natAbs

def finiteText (layout : NumberLayout) (x : Double) : List Char :=
  let body :=
    if x.magnitude == 0 then '0' :: layout.wholeMark
    else
      let d := x.shortest layout.tie
      if layout.positional (d.point - 1) then positionalText layout.wholeMark d else exponentText d
  if x.negative then '-' :: body else body

end NumberLayout
end ChatTelemetry
