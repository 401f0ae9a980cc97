/-!
Texts as bytes: each character takes one to four bytes.
-/

namespace ChatTelemetry.Text

def utf8 (cs : List Char) : List UInt8 :=
  cs.flatMap String.utf8EncodeChar

def bytes (s : String) : List UInt8 :=
  utf8 s.toList

structure PartialChar where
  value : Nat
  after : Nat
  /-- The least next byte. -/
  low : UInt8
  high : UInt8

/-- What the first byte of a character begins: nothing, a whole character or a longer one. -/
inductive LeadByte
  | invalid
  | whole (c : Char)
  | start (p : PartialChar)

def LeadByte.ofByte (b : UInt8) : LeadByte :=
  let n := b.toNat
  if n < 0x80 then .whole (.ofNat n)
  else if n < 0xc2 then .invalid
  else if n < 0xe0 then .start ⟨n - 0xc0, 0, 0x80, 0xbf⟩
  else if n < 0xf0 then
    let low := if n == 0xe0 then 0xa0 else 0x80
    let high := if n == 0xed then 0x9f else 0xbf
    .start ⟨n - 0xe0, 1, low, high⟩
  else if n < 0xf5 then
    let low := if n == 0xf0 then 0x90 else 0x80
    let high := if n == 0xf4 then 0x8f else 0xbf
    .start ⟨n - 0xf0, 2, low, high⟩
  else .invalid

/--
The characters that bytes stand for; `none` stands for a longest beginning of a character that does
not go on as one.
-/
def chars (bytes : List UInt8) : List (Option Char) :=
  go none bytes
where
  go : Option PartialChar → List UInt8 → List (Option Char)
    | none, [] => []
    | some _, [] => [none]
    | none, b :: bytes =>
      match LeadByte.ofByte b with
      | .invalid => none :: go none bytes
      | .whole c => some c :: go none bytes
      | .start p => go (some p) bytes
    | some p, b :: bytes =>
      if p.low ≤ b && b ≤ p.high then
        let value := p.value * 64 + b.toNat % 64
        match p.after with
        | 0 => some (.ofNat value) :: go none bytes
        | n + 1 => go (some ⟨value, n, 0x80, 0xbf⟩) bytes
      else
        match LeadByte.ofByte b with
        | .invalid => none :: none :: go none bytes
        | .whole c => none :: some c :: go none bytes
        | .start p => none :: go (some p) bytes

/-- The text that bytes stand for, if they all do. -/
def ofUtf8? (bytes : List UInt8) : Option (List Char) :=
  (chars bytes).mapM id

/-- The text that bytes stand for, with a replacement character for what stands for none. -/
def ofUtf8Lossy (bytes : List UInt8) : List Char :=
  (chars bytes).map (·.getD '\ufffd')

end ChatTelemetry.Text
