/-!
Texts in the letters, digits and dashes of ASCII.

The characters of ASCII come first. For all others follow, in the order of their numbers, the steps
to the next place where one of them is inserted; a step is written in base 36, its last digit marked
by being below a threshold.
-/

namespace ChatTelemetry.Url.Punycode

def base : Nat := 36

def digit (n : Nat) : Char :=
  if n < 26 then .ofNat ('a'.toNat + n) else .ofNat ('0'.toNat + (n - 26))

def digitValue? (c : Char) : Option Nat :=
  if 'a' ≤ c && c ≤ 'z' then some (c.toNat - 'a'.toNat)
  else if 'A' ≤ c && c ≤ 'Z' then some (c.toNat - 'A'.toNat)
  else if '0' ≤ c && c ≤ '9' then some (c.toNat - '0'.toNat + 26)
  else none

/-- The digits at a position that do not end a number are those from the threshold on. -/
def threshold (bias position : Nat) : Nat :=
  min 26 (max 1 (position - bias))

theorem threshold_pos (bias position : Nat) : 0 < threshold bias position := by
  simp only [threshold]
  omega

/-- How often a step is divided, in positions, and what remains of it. -/
def damped (position step : Nat) : Nat × Nat :=
  if step ≤ 455 then (position, step) else damped (position + base) (step / 35)
termination_by step
decreasing_by omega

/-- The bias for the step after this one, which was the `count`-th insertion. -/
def nextBias (step count : Nat) (isFirst : Bool) : Nat :=
  let halved := if isFirst then step / 700 else step / 2
  let (position, rest) := damped 0 (halved + halved / count)
  position + base * rest / (rest + 38)

/-! ### Writing -/

def stepDigits (bias position step : Nat) : List Char :=
  let t := threshold bias position
  if step < t then [digit step]
  else
    digit (t + (step - t) % (base - t)) ::
      stepDigits bias (position + base) ((step - t) / (base - t))
termination_by step
decreasing_by
  have := threshold_pos bias position
  exact Nat.lt_of_le_of_lt (Nat.div_le_self _ _) (by omega)

/-- What has been written, the step since then, the bias, and how many characters are in place. -/
structure Writing where
  digits : List Char
  step : Nat
  bias : Nat
  placed : Nat

def isBasic (c : Char) : Bool :=
  c.toNat < 0x80

/-- Passes one character of the text on the way through it for the characters with number `n`. -/
def Writing.pass (basicCount n : Nat) (w : Writing) (c : Char) : Writing :=
  if c.toNat < n then { w with step := w.step + 1 }
  else if c.toNat = n then
    { digits := w.digits ++ stepDigits w.bias base w.step
      step := 0
      bias := nextBias w.step (w.placed + 1) (w.placed == basicCount)
      placed := w.placed + 1 }
  else w

/-- Goes through the text once for each number; `next` follows the number before. -/
def Writing.passAll (cs : List Char) (basicCount : Nat) :
    (next : Nat) → List Nat → Writing → Writing
  | _, [], w => w
  | next, n :: rest, w =>
    let w := cs.foldl (pass basicCount n) { w with step := w.step + (n - next) * (w.placed + 1) }
    passAll cs basicCount (n + 1) rest { w with step := w.step + 1 }

def encode (cs : List Char) : List Char :=
  let basic := cs.filter isBasic
  let numbers := ((cs.filter fun c => !isBasic c).map Char.toNat).mergeSort.eraseDups
  let w := Writing.passAll cs basic.length 0x80 numbers ⟨[], 0, 72, basic.length⟩
  basic ++ (if basic.isEmpty then [] else ['-']) ++ w.digits

/-! ### Reading -/

/--
Adds a step to a number, given the position and the weight of its first digit, and gives what
follows it.
-/
def addStep? (bias : Nat) : (position weight n : Nat) → List Char → Option (Nat × List Char)
  | _, _, _, [] => none
  | position, weight, n, c :: cs => do
    let d ← digitValue? c
    let t := threshold bias position
    if d < t then some (n + d * weight, cs)
    else addStep? bias (position + base) (weight * (base - t)) (n + d * weight) cs

/-- Inserts characters as long as there are steps; `place` is past the last one. -/
def insertAll? (fuel bias number place : Nat) (text cs : List Char) : Option (List Char) :=
  match fuel, cs with
  | _, [] => some text
  | 0, _ => none
  | fuel + 1, cs => do
    let (reached, rest) ← addStep? bias base 1 place cs
    let count := text.length + 1
    let number := number + reached / count
    let position := reached % count
    if number < 0xd800 || (0xdfff < number && number < 0x110000) then
      insertAll? fuel (nextBias (reached - place) count (place == 0)) number (position + 1)
        (text.take position ++ .ofNat number :: text.drop position) rest
    else none

/-- The text that a text in ASCII stands for; its own characters end at the last dash. -/
def decode? (cs : List Char) : Option (List Char) :=
  let tail := cs.reverse.takeWhile (· != '-')
  let basic := (cs.reverse.drop (tail.length + 1)).reverse
  let digits := if basic.isEmpty then cs else tail.reverse
  if basic.all isBasic then insertAll? digits.length 72 0x80 0 basic digits else none

end ChatTelemetry.Url.Punycode
