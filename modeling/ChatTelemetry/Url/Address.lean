import ChatTelemetry.Text.Hex
import ChatTelemetry.Text.Segments
/-!
Hosts that are network addresses of version 4 and 6: reading and writing them.
-/

namespace ChatTelemetry.Url

def isAsciiDigit (c : Char) : Bool :=
  '0' ≤ c && c ≤ '9'

/-- The number that digits of a base stand for; none if one is no digit of that base. -/
def numberIn? (base : Nat) (ds : List Char) : Option Nat :=
  ds.foldlM (fun n d => do
    let v ← Text.hexValue? d
    if v < base then some (n * base + v) else none) 0

/-- A part of an address of version 4: base ten, base eight after `0`, base sixteen after `0x`. -/
def addressPart? (cs : List Char) : Option Nat :=
  match cs with
  | [] => none
  | '0' :: 'x' :: ds | '0' :: 'X' :: ds => numberIn? 16 ds
  | '0' :: d :: ds => numberIn? 8 (d :: ds)
  | ds => numberIn? 10 ds

/-- The parts between dots, without an empty last one. -/
def addressParts (cs : List Char) : List (List Char) :=
  let parts := Text.segments '.' cs
  if parts.getLast? = some [] then parts.dropLast else parts

/-- Whether a name has to be an address because its last part is a number. -/
def endsInNumber (cs : List Char) : Bool :=
  match (addressParts cs).getLast? with
  | none => false
  | some last => (!last.isEmpty && last.all isAsciiDigit) || (addressPart? last).isSome

/-- An address of version 4: all parts but the last are bytes, the last one fills what is left. -/
def ipv4? (cs : List Char) : Option Nat := do
  let numbers ← (addressParts cs).mapM addressPart?
  let last ← numbers.getLast?
  let first := numbers.dropLast
  if numbers.length ≤ 4 && first.all (· ≤ 255) && last < Nat.pow 256 (4 - first.length) then
    some (first.zipIdx.foldr (fun (n, i) rest => n * Nat.pow 256 (3 - i) + rest) last)
  else none

def ipv4Chars (address : Nat) : List Char :=
  Text.join ['.'] <| [3, 2, 1, 0].map fun i => Nat.toDigits 10 (address / Nat.pow 256 i % 256)

/-- A byte in base ten without leading zeros. -/
def byteInBaseTen? (cs : List Char) : Option Nat :=
  match cs with
  | [] => none
  | '0' :: _ :: _ => none
  | ds => do
    let n ← numberIn? 10 ds
    if n ≤ 255 then some n else none

/-- The last two pieces of an address of version 6, written as one of version 4. -/
def embeddedIpv4? (cs : List Char) : Option (List Nat) := do
  match ← (Text.segments '.' cs).mapM byteInBaseTen? with
  | [a, b, c, d] => some [a * 256 + b, c * 256 + d]
  | _ => none

/--
The pieces of an address of version 6, after those in `pieces`, with the place where zeros are left
out: there a first zero stands already.
-/
def ipv6Pieces? (fuel : Nat) (pieces : List Nat) (gap : Option Nat) (cs : List Char) :
    Option (List Nat × Option Nat) :=
  match fuel, cs with
  | _, [] => some (pieces, gap)
  | 0, _ => none
  | fuel + 1, ':' :: rest =>
    if pieces.length = 8 || gap.isSome then none
    else ipv6Pieces? fuel (pieces ++ [0]) (some (pieces.length + 1)) rest
  | fuel + 1, cs =>
    if pieces.length = 8 then none
    else
      let ds := (cs.take 4).takeWhile fun c => (Text.hexValue? c).isSome
      match cs.drop ds.length with
      | [] => do
        let n ← numberIn? 16 ds
        ipv6Pieces? fuel (pieces ++ [n]) gap []
      | '.' :: _ => do
        if ds.isEmpty || pieces.length > 6 then none
        else return (pieces ++ (← embeddedIpv4? cs), gap)
      | [':'] => none
      | ':' :: rest => do
        let n ← numberIn? 16 ds
        ipv6Pieces? fuel (pieces ++ [n]) gap rest
      | _ => none

def ipv6? (cs : List Char) : Option (List Nat) := do
  let (pieces, gap) ← match cs with
    | ':' :: ':' :: rest => ipv6Pieces? rest.length [0] (some 1) rest
    | ':' :: _ | [] | [_] => none
    | cs => ipv6Pieces? cs.length [] none cs
  match gap with
  | some gap => some (pieces.take gap ++ List.replicate (8 - pieces.length) 0 ++ pieces.drop gap)
  | none => if pieces.length = 8 then some pieces else none

def leadingZeros (pieces : List Nat) : Nat :=
  (pieces.takeWhile (· == 0)).length

/-- Where the first of the longest runs of zeros begins, and its length. -/
def longestZeros (pieces : List Nat) : Nat × Nat :=
  (List.range pieces.length).foldl (fun (start, count) i =>
    let run := leadingZeros (pieces.drop i)
    if run > count then (i, run) else (start, count)) (0, 0)

def ipv6PieceChars (pieces : List Nat) : List Char :=
  Text.join [':'] (pieces.map (Nat.toDigits 16))

/--
Pieces in base sixteen with colons between; the longest run of zeros, if not a lone one, is left
out.
-/
def ipv6Chars (pieces : List Nat) : List Char :=
  let (start, count) := longestZeros pieces
  if count < 2 then ipv6PieceChars pieces
  else
    ipv6PieceChars (pieces.take start) ++ [':', ':'] ++ ipv6PieceChars (pieces.drop (start + count))

end ChatTelemetry.Url
