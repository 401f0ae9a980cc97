/-!
White space beyond ASCII, and texts without the white space around them.
-/

namespace ChatTelemetry.Text

/-- White space: the characters with that property, beyond ASCII too. -/
def isBlank (c : Char) : Bool :=
  let n := c.toNat
  (0x9 ≤ n && n ≤ 0xd) || n == 0x20 || n == 0x85 || n == 0xa0 || n == 0x1680 ||
    (0x2000 ≤ n && n ≤ 0x200a) || n == 0x2028 || n == 0x2029 || n == 0x202f || n == 0x205f ||
    n == 0x3000

/-- The list without the elements of a class at its end. -/
def dropEndWhile (p : α → Bool) (cs : List α) : List α :=
  (cs.reverse.dropWhile p).reverse

/-- The text without the characters of a class at either end. -/
def strip (p : Char → Bool) (cs : List Char) : List Char :=
  dropEndWhile p (cs.dropWhile p)

/-- The text without the white space around it. -/
def trim (cs : List Char) : List Char :=
  strip isBlank cs

end ChatTelemetry.Text
