import ChatTelemetry.Json.Reader

/-!
This module states the grammar of JSON texts together with the trees that they stand for. All
relations say what is at the front of a text and which text is left behind it.
-/

namespace ChatTelemetry.Json.Grammar

inductive Blanks : List Char → List Char → Prop
  | none (cs : List Char) : Blanks cs cs
  | more {c : Char} {cs rest : List Char} (hc : isBlank c = true) (h : Blanks cs rest)
    : Blanks (c :: cs) rest

/-! ### Strings -/

/-- The letters that may follow a backslash, with the characters that they stand for. -/
def escapes : List (Char × Char) :=
  [ ('"', '"'), ('\\', '\\'), ('/', '/'), ('b', '\x08'), ('f', '\x0c'), ('n', '\n'), ('r', '\r'),
    ('t', '\t') ]

/-- One character of a string; those beyond the first plane may be written as two surrogates. -/
inductive Letter : List Char → Char → List Char → Prop
  | plain {c : Char} {rest : List Char} (hquote : c ≠ '"') (hbackslash : c ≠ '\\')
    (hcontrol : 0x20 ≤ c.toNat)
    : Letter (c :: rest) c rest
  | escape {c d : Char} {rest : List Char} (h : (c, d) ∈ escapes)
    : Letter ('\\' :: c :: rest) d rest
  | unicode {a b c d : Char} {n : Nat} {rest : List Char} (hn : hexQuad? a b c d = some n)
    (hlow : isLowSurrogate n = false) (hhigh : isHighSurrogate n = false)
    : Letter ('\\' :: 'u' :: a :: b :: c :: d :: rest) (.ofNat n) rest
  | surrogates {a b c d a' b' c' d' : Char} {n m : Nat} {rest : List Char}
    (hn : hexQuad? a b c d = some n) (hhigh : isHighSurrogate n = true)
    (hm : hexQuad? a' b' c' d' = some m) (hlow : isLowSurrogate m = true)
    : Letter ('\\' :: 'u' :: a :: b :: c :: d :: '\\' :: 'u' :: a' :: b' :: c' :: d' :: rest)
        (ofSurrogates n m) rest

/-- The characters of a string up to its closing quote. -/
inductive Letters : List Char → List Char → List Char → Prop
  | closed (rest : List Char) : Letters ('"' :: rest) [] rest
  | more {cs left rest s : List Char} {c : Char} (hc : Letter cs c left) (h : Letters left s rest)
    : Letters cs (c :: s) rest

/-! ### Numbers -/

structure AreDigits (ds : List Char) : Prop where
  ne_nil : ds ≠ []
  digit_of_mem : ∀ d ∈ ds, isDigit d = true

/-- How an exponent is written, which may be left out: the plus sign may, too. -/
inductive Exponent : Option (Bool × List Char) → List Char → Prop
  | none : Exponent none []
  | plain {e : Char} {ds : List Char} (he : e = 'e' ∨ e = 'E') (hds : AreDigits ds)
    : Exponent (some (false, ds)) (e :: ds)
  | plus {e : Char} {ds : List Char} (he : e = 'e' ∨ e = 'E') (hds : AreDigits ds)
    : Exponent (some (false, ds)) (e :: '+' :: ds)
  | minus {e : Char} {ds : List Char} (he : e = 'e' ∨ e = 'E') (hds : AreDigits ds)
    : Exponent (some (true, ds)) (e :: '-' :: ds)

inductive Fraction : Option (List Char) → List Char → Prop
  | none : Fraction none []
  | some {ds : List Char} (hds : AreDigits ds) : Fraction (some ds) ('.' :: ds)

/-- A literal is written with its sign, if it has one, and without zeros in front. -/
inductive Number (l : Literal) : List Char → Prop
  | mk {fraction exponent : List Char} (hwhole : AreDigits l.whole)
    (hzero : l.whole.head? = some '0' → l.whole = ['0']) (hfraction : Fraction l.fraction fraction)
    (hexponent : Exponent l.exponent exponent)
    : Number l ((if l.negative then ['-'] else []) ++ l.whole ++ fraction ++ exponent)

/-! ### Trees -/

/-- What follows an entry: a comma and another entry, or the bracket that closes all. -/
inductive Further (close : Char) (entry : List Char → α → List Char → Prop)
    : List Char → List α → List Char → Prop
  | closed {cs rest : List Char} (hclose : Blanks cs (close :: rest))
    : Further close entry cs [] rest
  | more {cs others begun left rest : List Char} {a : α} {as : List α}
    (hcomma : Blanks cs (',' :: others)) (hbegun : Blanks others begun) (ha : entry begun a left)
    (has : Further close entry left as rest)
    : Further close entry cs (a :: as) rest

/-- Entries in brackets, with commas between them. -/
inductive Listed (opening close : Char) (entry : List Char → α → List Char → Prop)
    : List Char → List α → List Char → Prop
  | closed {cs rest : List Char} (hclose : Blanks cs (close :: rest))
    : Listed opening close entry (opening :: cs) [] rest
  | more {cs begun left rest : List Char} {a : α} {as : List α}
    (hbegun : Blanks cs begun) (ha : entry begun a left) (has : Further close entry left as rest)
    : Listed opening close entry (opening :: cs) (a :: as) rest

/-- A field of an object is a string, a colon and what is said by `tree`. -/
inductive Field (tree : List Char → Value → List Char → Prop)
    : List Char → String × Value → List Char → Prop
  | mk {cs left right begun rest key : List Char} {v : Value} (hkey : Letters cs key left)
    (hcolon : Blanks left (':' :: right)) (hbegun : Blanks right begun) (hv : tree begun v rest)
    : Field tree ('"' :: cs) (.ofList key, v) rest

/-- A number beyond the largest double stands for no tree. -/
inductive Tree : List Char → Value → List Char → Prop
  | null {rest : List Char} : Tree ('n' :: 'u' :: 'l' :: 'l' :: rest) .null rest
  | true {rest : List Char} : Tree ('t' :: 'r' :: 'u' :: 'e' :: rest) (.bool true) rest
  | false {rest : List Char} : Tree ('f' :: 'a' :: 'l' :: 's' :: 'e' :: rest) (.bool false) rest
  | number {l : Literal} {cs rest : List Char} {v : Value} (h : Number l cs)
    (hv : l.value? = some v)
    : Tree (cs ++ rest) v rest
  | string {cs rest s : List Char} (h : Letters cs s rest)
    : Tree ('"' :: cs) (.string (.ofList s)) rest
  | array {cs rest : List Char} {items : List Value} (h : Listed '[' ']' Tree cs items rest)
    : Tree cs (.array items) rest
  | object {cs rest : List Char} {fields : List (String × Value)}
    (h : Listed '{' '}' (Field Tree) cs fields rest)
    : Tree cs (.object fields) rest

/-- The text is one tree, with nothing but blanks around it. -/
def IsText (cs : List Char) (v : Value) : Prop :=
  ∃ begun left, Blanks cs begun ∧ Tree begun v left ∧ Blanks left []

end ChatTelemetry.Json.Grammar
