import ChatTelemetry.Json.Printer
import ChatTelemetry.Json.Reader

/-!
This module shows that strings and whole numbers are read as they have been written, whatever
follows them in the text.
-/

namespace ChatTelemetry.Json

/-! ### Texts -/

theorem hexQuad?_hexDigits {n : Nat} (h : n < 0x20)
    : ∃ a b c d, Text.hexDigits 4 n = [a, b, c, d] ∧ hexQuad? a b c d = some n := by
  refine ⟨_, _, _, _, rfl, ?_⟩
  revert n
  decide

theorem stringBody_escapedChar (done : List Char) (c : Char) (cs : List Char)
    : stringBody done (escapedChar c ++ cs) = stringBody (c :: done) cs := by
  unfold escapedChar
  split
  case h_8 hquote hslash hb hf hn hr ht =>
    split
    . next hcontrol =>
      obtain ⟨a₁, a₂, a₃, a₄, hdigits, hquad⟩ := hexQuad?_hexDigits hcontrol
      have hlow : isLowSurrogate c.toNat = false := by
        rw [isLowSurrogate, decide_eq_false (by omega), Bool.false_and]
      have hhigh : isHighSurrogate c.toNat = false := by
        rw [isHighSurrogate, decide_eq_false (by omega), Bool.false_and]
      rw [hdigits]
      simp [stringBody, hquad, hlow, hhigh, Char.ofNat_toNat]
    . next hplain =>
      rw [List.singleton_append, stringBody, if_neg hplain]
      . exact hquote
      all_goals
        intros
        contradiction
  all_goals simp [stringBody, simpleEscape?]

theorem stringBody_escaped (done cs rest : List Char)
    : stringBody done (cs.flatMap escapedChar ++ '"' :: rest)
        =
      .ok (.ofList (done.reverse ++ cs), rest) := by
  induction cs generalizing done with
  | nil => simp [stringBody]
  | cons c cs ih =>
    rw [List.flatMap_cons, List.append_assoc, stringBody_escapedChar, ih]
    simp

/-- The text of a string is read as the string, from behind its opening quote. -/
theorem stringChars_eq (s : String) (rest : List Char)
    : ∃ body, stringChars s ++ rest = '"' :: body ∧ stringBody [] body = .ok (s, rest) := by
  refine ⟨s.toList.flatMap escapedChar ++ '"' :: rest, by simp [stringChars], ?_⟩
  rw [stringBody_escaped]
  simp

/-! ### Numbers -/

/-- What may follow a number without being taken for more of it. -/
def EndsNumber (cs : List Char) : Prop :=
  ∀ c ∈ cs.head?, isDigit c = false ∧ c ≠ '.' ∧ c ≠ 'e' ∧ c ≠ 'E'

/-- As `EndsNumber`, for a run of digits. -/
def EndsDigits (cs : List Char) : Prop :=
  ∀ c ∈ cs.head?, isDigit c = false

theorem endsNumber_nil : EndsNumber [] := by
  simp [EndsNumber]

theorem EndsNumber.endsDigits {cs : List Char} (h : EndsNumber cs) : EndsDigits cs :=
  fun c hc => (h c hc).1

namespace Literal

theorem isDigit_of_mem_toDigits {n : Nat} {c : Char} (h : c ∈ Nat.toDigits 10 n)
    : isDigit c = true :=
  Nat.isDigit_of_mem_toDigits (by decide) (by decide) h

theorem natValue_toDigits (n : Nat) : natValue (Nat.toDigits 10 n) = n := by
  have h := Nat.ofDigitChars_ten_toDigits (n := n)
  rw [Nat.ofDigitChars_eq_foldl] at h
  simpa only [natValue, digitValue, Nat.mul_comm] using h

/-- Only zero is written with a zero in front. -/
theorem exists_toDigits {n : Nat} (h : n ≠ 0)
    : ∃ d ds, Nat.toDigits 10 n = d :: ds ∧ d ≠ '0' := by
  induction n using Nat.strongRecOn with
  | ind n ih =>
    rw [Nat.toDigits_eq_if (by decide)]
    split
    . next hlt =>
      have hdigit : ∀ n < 10, n ≠ 0 → Nat.digitChar n ≠ '0' := by decide
      exact ⟨n.digitChar, [], rfl, hdigit n hlt h⟩
    . next hge =>
      obtain ⟨d, ds, hds, hd⟩ := ih (n / 10) (by omega) (by omega)
      exact ⟨d, ds ++ [(n % 10).digitChar], by rw [hds, List.cons_append], hd⟩

variable {rest : List Char}

theorem digits_append {ds : List Char} (hds : ds ≠ []) (hdigits : ∀ c ∈ ds, isDigit c = true)
    (hrest : EndsDigits rest)
    : digits (ds ++ rest) = .ok (ds, rest) := by
  have htake : rest.takeWhile isDigit = [] := by
    cases rest with
    | nil => rfl
    | cons c rest => rw [List.takeWhile_cons_of_neg (by simp [hrest c rfl])]
  have hdrop : rest.dropWhile isDigit = rest := by
    cases rest with
    | nil => rfl
    | cons c rest => rw [List.dropWhile_cons_of_neg (by simp [hrest c rfl])]
  obtain ⟨d, ds, rfl⟩ := List.exists_cons_of_ne_nil hds
  rw [List.cons_append, digits, if_pos (hdigits d List.mem_cons_self), ← List.cons_append]
  rw [List.takeWhile_append_of_pos hdigits, List.dropWhile_append_of_pos hdigits, htake, hdrop]
  rw [List.append_nil]

/-- A zero in front can be read only if it stands alone. -/
theorem wholePart_append {ds : List Char} (hds : ds ≠ []) (hdigits : ∀ c ∈ ds, isDigit c = true)
    (hzero : ds.head? = some '0' → ds = ['0']) (hrest : EndsDigits rest)
    : wholePart (ds ++ rest) = .ok (ds, rest) := by
  have hread := digits_append hds hdigits hrest
  rw [wholePart.eq_def]
  split
  . next c left heq =>
    obtain ⟨d, ds, rfl⟩ := List.exists_cons_of_ne_nil hds
    obtain ⟨rfl, hleft⟩ := List.cons.inj heq
    cases hzero rfl
    obtain rfl : rest = c :: left := hleft
    rw [if_neg (by simp [hrest c rfl])]
  . exact hread

theorem wholePart_toDigits (n : Nat) (hrest : EndsNumber rest)
    : wholePart (Nat.toDigits 10 n ++ rest) = .ok (Nat.toDigits 10 n, rest) := by
  apply wholePart_append Nat.toDigits_ne_nil (fun _ => isDigit_of_mem_toDigits) _ hrest.endsDigits
  intro hhead
  by_cases hn : n = 0
  . subst hn
    exact Nat.toDigits_zero 10
  . obtain ⟨d, ds, hds, hd⟩ := exists_toDigits hn
    rw [hds] at hhead
    exact absurd (Option.some.inj hhead) hd

theorem fractionPart_of_endsNumber (hrest : EndsNumber rest)
    : fractionPart rest = .ok (none, rest) := by
  unfold fractionPart
  split
  . exact absurd rfl (hrest '.' rfl).2.1
  . rfl

theorem exponentPart_of_endsNumber (hrest : EndsNumber rest)
    : exponentPart rest = .ok (none, rest) := by
  unfold exponentPart
  split
  . next c rest =>
    obtain ⟨-, -, he, hE⟩ := hrest c rfl
    simp [he, hE]
  . rfl

theorem unsigned_eq {negative : Bool} {cs left left' : List Char} {whole : List Char}
    {fraction : Option (List Char)} {exponent : Option (Bool × List Char)}
    (hwhole : wholePart cs = .ok (whole, left))
    (hfraction : fractionPart left = .ok (fraction, left'))
    (hexponent : exponentPart left' = .ok (exponent, rest))
    : read.unsigned negative cs = .ok (⟨negative, whole, fraction, exponent⟩, rest) := by
  unfold read.unsigned
  simp only [bind, Except.bind, hwhole, hfraction, hexponent]
  rfl

theorem unsigned_toDigits (negative : Bool) (n : Nat) (hrest : EndsNumber rest)
    : read.unsigned negative (Nat.toDigits 10 n ++ rest)
        =
      .ok (⟨negative, Nat.toDigits 10 n, none, none⟩, rest) :=
  unsigned_eq (wholePart_toDigits n hrest) (fractionPart_of_endsNumber hrest)
    (exponentPart_of_endsNumber hrest)

theorem read_toDigits (n : Nat) (hrest : EndsNumber rest)
    : read (Nat.toDigits 10 n ++ rest) = .ok (⟨false, Nat.toDigits 10 n, none, none⟩, rest) := by
  have hunsigned := unsigned_toDigits false n hrest
  have hne : Nat.toDigits 10 n ≠ [] := Nat.toDigits_ne_nil
  obtain ⟨d, ds, hds⟩ := List.exists_cons_of_ne_nil hne
  have hd : isDigit d = true := isDigit_of_mem_toDigits (n := n) (hds ▸ List.mem_cons_self)
  unfold read
  split
  . next heq =>
    rw [hds] at heq
    cases (List.cons.inj heq).1
    cases hd
  . exact hunsigned

end Literal

/-- Whether an integer is one of 64 bits, with a sign or without. -/
def isWithin64Bits (n : Int) : Bool :=
  -(Nat.pow 2 63 : Int) ≤ n && n < Nat.pow 2 64

theorem number_intChars {n : Int} (hn : isWithin64Bits n) {rest : List Char}
    (hrest : EndsNumber rest)
    : number (intChars n ++ rest) = .ok (.int n, rest) := by
  obtain ⟨hlow, hhigh⟩ : -(Nat.pow 2 63 : Int) ≤ n ∧ n < Nat.pow 2 64 := by
    simpa [isWithin64Bits] using hn
  unfold number intChars
  split
  . next hneg =>
    have hvalue : Literal.value? ⟨true, Nat.toDigits 10 n.natAbs, none, none⟩
        = some (.int (-n.natAbs)) := by
      have hin : 0 < n.natAbs ∧ n.natAbs ≤ Nat.pow 2 63 := by omega
      simp [Literal.value?, Literal.isWhole, Literal.natValue_toDigits, hin]
    have habs : -(n.natAbs : Int) = n := by omega
    rw [List.cons_append, Literal.read, Literal.unsigned_toDigits true n.natAbs hrest]
    simp only [bind, Except.bind, hvalue]
    rw [habs]
  . next hpos =>
    have hvalue : Literal.value? ⟨false, Nat.toDigits 10 n.natAbs, none, none⟩
        = some (.int n.natAbs) := by
      have hin : n.natAbs < Nat.pow 2 64 := by omega
      simp [Literal.value?, Literal.isWhole, Literal.natValue_toDigits, hin]
    have habs : (n.natAbs : Int) = n := by omega
    rw [Literal.read_toDigits n.natAbs hrest]
    simp only [bind, Except.bind, hvalue]
    rw [habs]

theorem value?_negativeZero
    : (Literal.mk true ['0'] (some ['0']) none).value? = some (.double .negativeZero) := by
  have hscaled : Literal.scaleDown (Double.ofNat 0) 1 = .zero := by
    rw [Literal.scaleDown, if_pos (by decide)]
    decide +kernel
  have hdouble : (Literal.mk true ['0'] (some ['0']) none).double? = some .negativeZero := by
    change some (Literal.scaleDown (Double.ofNat 0) 1).neg = some .negativeZero
    rw [hscaled]
    decide
  rw [Literal.value?, hdouble]
  rfl

/-- One whole number is read as a double, the negative zero. -/
theorem number_negativeZero {rest : List Char} (hrest : EndsNumber rest)
    : number (doubleChars .negativeZero ++ rest) = .ok (.double .negativeZero, rest) := by
  have hchars : doubleChars .negativeZero = ['-', '0', '.', '0'] := by decide
  have hdigits : Literal.digits ('0' :: rest) = .ok (['0'], rest) :=
    Literal.digits_append (List.cons_ne_nil '0' []) (List.forall_mem_singleton.mpr rfl)
      hrest.endsDigits
  have hfraction : Literal.fractionPart ('.' :: '0' :: rest) = .ok (some ['0'], rest) := by
    rw [Literal.fractionPart, hdigits]
    rfl
  have hread : Literal.read ('-' :: '0' :: '.' :: '0' :: rest)
      = .ok (⟨true, ['0'], some ['0'], none⟩, rest) :=
    Literal.unsigned_eq rfl hfraction (Literal.exponentPart_of_endsNumber hrest)
  rw [hchars, number, List.cons_append, List.cons_append, List.cons_append, List.singleton_append]
  rw [hread]
  simp only [bind, Except.bind, value?_negativeZero]

end ChatTelemetry.Json
