/-!
Classes of characters as ranges of their numbers.
-/

namespace ChatTelemetry.Text

/-- Whether a character lies in one of the ranges, ends included. -/
def inRanges (ranges : List (Nat × Nat)) (c : Char) : Bool :=
  ranges.any fun (low, high) => low ≤ c.toNat && c.toNat ≤ high

end ChatTelemetry.Text
