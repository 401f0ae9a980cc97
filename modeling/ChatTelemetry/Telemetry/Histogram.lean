import ChatTelemetry.Telemetry.Usage
/-!
Histograms: for each set of attributes the number of values, their sum, their least and greatest,
and how many fall into each bucket.
-/

namespace ChatTelemetry.Telemetry

/-- What has been recorded with one set of attributes, of numbers of type `α`. -/
structure Point (α : Type) where
  attributes : List Attribute
  count : Nat
  sum : α
  least : α
  greatest : α
  buckets : List Nat
deriving Repr

structure Instrument (α : Type) where
  name : String
  unit : String
  description : String
  /-- The upper ends of all buckets but the last; a value equal to one falls below it. -/
  bounds : List Double
  zero : α
  /-- What the least value starts from. -/
  top : α
  bottom : α
  add : α → α → α
  lt : α → α → Bool
  toDouble : α → Double

namespace Instrument

def bucket (i : Instrument α) (x : α) : Nat :=
  (i.bounds.takeWhile fun b => b.lt (i.toDouble x)).length

/-- A point without values. -/
def emptyPoint (i : Instrument α) (attributes : List Attribute) : Point α where
  attributes := attributes
  count := 0
  sum := i.zero
  least := i.top
  greatest := i.bottom
  buckets := .replicate (i.bounds.length + 1) 0

def withValue (i : Instrument α) (x : α) (p : Point α) : Point α where
  attributes := p.attributes
  count := p.count + 1
  sum := i.add p.sum x
  least := if i.lt x p.least then x else p.least
  greatest := if i.lt p.greatest x then x else p.greatest
  buckets := p.buckets.modify (i.bucket x) (· + 1)

/-- Whether two lists have the same attributes, in whatever order. -/
def sameAttributes (a b : List Attribute) : Bool :=
  a.length == b.length && a.all b.contains

/-- Records a value with the point of its attributes, which may be a new one. -/
def record (i : Instrument α) (x : α) (attributes : List Attribute) :
    List (Point α) → List (Point α)
  | [] => [i.withValue x (i.emptyPoint attributes)]
  | p :: rest =>
    if sameAttributes p.attributes attributes then i.withValue x p :: rest
    else p :: i.record x attributes rest

/-- Durations of calls, in seconds. -/
def operationDuration : Instrument Double where
  name := "gen_ai.client.operation.duration"
  unit := "s"
  description := "GenAI operation duration"
  bounds := (List.range 14).map fun k => (Double.ofNat (Nat.pow 2 k)).overPowerOfTen 2
  zero := .zero
  top := .largest
  bottom := Double.largest.neg
  add := Double.add
  lt := Double.lt
  toDouble := id

def tokenUsage : Instrument Nat where
  name := "gen_ai.client.token.usage"
  unit := "\x7btoken\x7d"
  description := "Measures number of input and output tokens used"
  bounds := (List.range 14).map fun k => Double.ofNat (Nat.pow 4 k)
  zero := 0
  top := Nat.pow 2 64 - 1
  bottom := 0
  add := (· + ·)
  lt := fun m n => m < n
  toDouble := Double.ofNat

end Instrument

structure Metrics where
  durations : List (Point Double) := []
  tokens : List (Point Nat) := []

def Metrics.record (m : Metrics) : Measurement → Metrics
  | .duration seconds attributes =>
    { m with durations := Instrument.operationDuration.record seconds attributes m.durations }
  | .tokens count attributes =>
    { m with tokens := Instrument.tokenUsage.record count attributes m.tokens }

end ChatTelemetry.Telemetry
