import ChatTelemetry.Double
import ChatTelemetry.Telemetry.Event
/-!
What is measured of each call.
-/

namespace ChatTelemetry.Telemetry

/-- A length of time: seconds and, below a second, billionths of it. -/
structure Duration where
  seconds : Nat
  nanos : Nat
deriving DecidableEq, Repr, Inhabited

def Duration.toDouble (d : Duration) : Double :=
  (Double.ofNat d.seconds).add ((Double.ofNat d.nanos).overPowerOfTen 9)

/-- How long a call took and how many tokens it used, as far as that is known. -/
structure Usage where
  duration : Duration := ⟨0, 0⟩
  inputTokens : Option Nat := none
  outputTokens : Option Nat := none
deriving DecidableEq, Repr, Inhabited

inductive Measurement
  | duration (seconds : Double) (attributes : List Attribute)
  | tokens (count : Nat) (attributes : List Attribute)
deriving DecidableEq, Repr, Inhabited

/-- Tokens of a type, which is the last attribute. -/
def Measurement.tokensOf (type : String) (attributes : List Attribute) (count : Nat) :
    Measurement :=
  .tokens count (attributes ++ [⟨tokenTypeKey, .text type⟩])

/--
The measurements of a call: its duration, then its tokens of input and of output if they are known.
-/
def Usage.measurements (u : Usage) (attributes : List Attribute) : List Measurement :=
  .duration u.duration.toDouble attributes ::
    ((u.inputTokens.map (Measurement.tokensOf "input" attributes)).toList ++
      (u.outputTokens.map (Measurement.tokensOf "output" attributes)).toList)

end ChatTelemetry.Telemetry
