import ChatTelemetry.Proofs.Grammar
import ChatTelemetry.Proofs.Reading
import ChatTelemetry.Proofs.Tokens

/-!
This module shows that the reader takes from the front of a text the strings and numbers that
the grammar has there. A number has to be followed by something that cannot belong to it.
-/

namespace ChatTelemetry.Json

open Grammar

/-! ### Blanks -/

namespace Grammar

theorem blanks_skipBlanks (cs : List Char) : Blanks cs (skipBlanks cs) := by
  induction cs with
  | nil => exact .none []
  | cons c cs ih =>
    cases hc : isBlank c with
    | true =>
      rw [skipBlanks, List.dropWhile_cons_of_pos hc]
      exact .more hc ih
    | false =>
      rw [skipBlanks, List.dropWhile_cons_of_neg (by simp [hc])]
      exact .none _

theorem Blanks.skipBlanks_eq {cs rest : List Char} (h : Blanks cs rest)
    : skipBlanks cs = skipBlanks rest := by
  induction h with
  | none cs => rfl
  | more hc h ih =>
    rw [skipBlanks, List.dropWhile_cons_of_pos hc]
    exact ih

theorem Blanks.endsNumber {cs rest : List Char} (h : Blanks cs rest) (hrest : EndsNumber rest)
    : EndsNumber cs := by
  cases h with
  | none => exact hrest
  | @more c cs rest hc h =>
    intro d hd
    obtain rfl := Option.some.inj hd
    simp only [isBlank, Bool.or_eq_true, beq_iff_eq] at hc
    rcases hc with ((rfl | rfl) | rfl) | rfl
    all_goals decide

end Grammar

theorem colon_eq_ok_iff {cs rest : List Char} : colon cs = .ok rest ↔ Blanks cs (':' :: rest) := by
  constructor
  . intro h
    unfold colon at h
    split at h
    . cases h
    . next hcs =>
      cases h
      exact hcs ▸ blanks_skipBlanks cs
    . cases h
  . intro h
    have hcs : skipBlanks cs = ':' :: rest := h.skipBlanks_eq
    rw [colon, hcs]
    rfl

/-! ### Strings -/

theorem simpleEscape?_eq_some_iff {c d : Char} : simpleEscape? c = some d ↔ (c, d) ∈ escapes := by
  unfold simpleEscape?
  split <;> simp_all [escapes, eq_comm]

theorem stringBody_of_letter {cs left : List Char} {c : Char} (h : Letter cs c left)
    (done : List Char)
    : stringBody done cs = stringBody (c :: done) left := by
  cases h with
  | plain hquote hbackslash hcontrol =>
    rw [stringBody, if_neg (Nat.not_lt.mpr hcontrol)]
    . exact hquote
    all_goals
      intros
      contradiction
  | @escape a _ _ h =>
    have hu : a ≠ 'u' := by
      rintro rfl
      revert h
      simp [escapes]
    rw [← simpleEscape?_eq_some_iff] at h
    rw [stringBody]
    . simp [h]
    all_goals simp [hu]
  | unicode hn hlow hhigh => simp [stringBody, hn, hlow, hhigh]
  | @surrogates _ _ _ _ _ _ _ _ n _ _ hn hhigh hm hlow =>
    have hnot : isLowSurrogate n = false := by
      simp only [isHighSurrogate, Bool.and_eq_true, decide_eq_true_eq] at hhigh
      rw [isLowSurrogate, decide_eq_false (by omega), Bool.false_and]
    simp [stringBody, hn, hnot, hhigh, hm, hlow]

theorem stringBody_of_letters {cs s rest : List Char} (h : Letters cs s rest) (done : List Char)
    : stringBody done cs = .ok (.ofList (done.reverse ++ s), rest) := by
  induction h generalizing done with
  | closed rest => simp [stringBody]
  | more hc h ih =>
    rw [stringBody_of_letter hc, ih]
    simp

theorem letters_of_stringBody {done cs rest : List Char} {s : String}
    (h : stringBody done cs = .ok (s, rest))
    : ∃ t, Letters cs t rest ∧ s = .ofList (done.reverse ++ t) := by
  have hmore : ∀ {done cs left : List Char} {c : Char}, Letter cs c left →
      (∃ t, Letters left t rest ∧ s = .ofList ((c :: done).reverse ++ t)) →
      ∃ t, Letters cs t rest ∧ s = .ofList (done.reverse ++ t) := by
    rintro done cs left c hc ⟨t, ht, rfl⟩
    exact ⟨c :: t, .more hc ht, by simp⟩
  -- In the cases that are not named the reader stops with a fault.
  fun_induction stringBody done cs with
  | case2 =>
    cases h
    exact ⟨[], .closed _, by simp⟩
  | case6 done a b c d n hquad hlow hhigh a' b' c' d' rest' m hquad' hlow' ih =>
    exact hmore (.surrogates hquad hhigh hquad' hlow') (ih h)
  | case12 done a b c d rest' n hquad hlow hhigh ih =>
    exact hmore (.unicode hquad (by simpa using hlow) (by simpa using hhigh)) (ih h)
  | case15 done c rest' hquad hu c' hsome ih =>
    exact hmore (.escape (simpleEscape?_eq_some_iff.mp hsome)) (ih h)
  | case18 done c rest' hquote hquad hshort hend hescape hplain ih =>
    have hbackslash : c ≠ '\\' := by
      rintro rfl
      cases rest' with
      | nil => exact hend rfl rfl
      | cons d rest' => exact hescape d rest' rfl rfl
    exact hmore (.plain hquote hbackslash (Nat.not_lt.mp hplain)) (ih h)
  | _ => cases h

/-! ### Numbers -/

theorem ne_sign_of_isDigit {c : Char} (hc : isDigit c = true) : c ≠ '+' ∧ c ≠ '-' := by
  constructor
  . rintro rfl
    exact absurd hc (by decide)
  . rintro rfl
    exact absurd hc (by decide)

namespace Literal

variable {cs rest : List Char}

theorem areDigits_of_digits {ds : List Char} (h : digits cs = .ok (ds, rest))
    : cs = ds ++ rest ∧ AreDigits ds := by
  unfold digits at h
  split at h
  . cases h
  . next c cs =>
    split at h
    . next hc =>
      cases h
      refine ⟨List.takeWhile_append_dropWhile.symm, ?_, fun d hd => List.mem_takeWhile_imp hd⟩
      rw [List.takeWhile_cons_of_pos hc]
      exact List.cons_ne_nil _ _
    . cases h

theorem areDigits_of_wholePart {ds : List Char} (h : wholePart cs = .ok (ds, rest))
    : cs = ds ++ rest ∧ AreDigits ds ∧ (ds.head? = some '0' → ds = ['0']) := by
  unfold wholePart at h
  split at h
  . split at h
    . cases h
    . cases h
      exact ⟨rfl, ⟨List.cons_ne_nil _ _, List.forall_mem_singleton.mpr rfl⟩, fun _ => rfl⟩
  . next hzero =>
    obtain ⟨rfl, hds⟩ := areDigits_of_digits h
    refine ⟨rfl, hds, ?_⟩
    intro hhead
    obtain ⟨ds, rfl⟩ := List.head?_eq_some_iff.mp hhead
    cases ds with
    | nil => rfl
    | cons d ds => exact absurd rfl (hzero d (ds ++ rest))

theorem fractionPart_of_fraction {fraction : Option (List Char)} (h : Fraction fraction cs)
    (hrest : EndsDigits rest) (hpoint : rest.head? ≠ some '.')
    : fractionPart (cs ++ rest) = .ok (fraction, rest) := by
  cases h with
  | none =>
    rw [List.nil_append]
    unfold fractionPart
    split
    . exact absurd rfl hpoint
    . rfl
  | some hds =>
    rw [List.cons_append, fractionPart, digits_append hds.ne_nil hds.digit_of_mem hrest]
    rfl

theorem fraction_of_fractionPart {fraction : Option (List Char)}
    (h : fractionPart cs = .ok (fraction, rest))
    : ∃ chars, cs = chars ++ rest ∧ Fraction fraction chars := by
  unfold fractionPart at h
  split at h
  . obtain ⟨⟨ds, left⟩, hread, h⟩ := Except.bind_eq_ok_iff.mp h
    cases h
    obtain ⟨rfl, hds⟩ := areDigits_of_digits hread
    exact ⟨'.' :: ds, rfl, .some hds⟩
  . cases h
    exact ⟨[], rfl, .none⟩

theorem exponentPart_of_exponent {exponent : Option (Bool × List Char)} (h : Exponent exponent cs)
    (hrest : EndsNumber rest)
    : exponentPart (cs ++ rest) = .ok (exponent, rest) := by
  have hunsigned : ∀ {negative : Bool} {ds : List Char}, AreDigits ds →
      exponentPart.unsigned negative (ds ++ rest) = .ok (some (negative, ds), rest) := by
    intro negative ds hds
    rw [exponentPart.unsigned, digits_append hds.ne_nil hds.digit_of_mem hrest.endsDigits]
    rfl
  cases h with
  | none => exact exponentPart_of_endsNumber hrest
  | @plain e ds he hds =>
    have hread : exponentPart.unsigned false (ds ++ rest) = .ok (some (false, ds), rest) :=
      hunsigned hds
    obtain ⟨d, ds, rfl⟩ := List.exists_cons_of_ne_nil hds.ne_nil
    obtain ⟨hplus, hminus⟩ := ne_sign_of_isDigit (hds.digit_of_mem d List.mem_cons_self)
    rw [List.cons_append, exponentPart, if_pos (by simpa using he)]
    . exact hread
    . simp [hplus]
    . simp [hminus]
  | plus he hds =>
    rw [List.cons_append, List.cons_append, exponentPart, if_pos (by simpa using he)]
    exact hunsigned hds
  | minus he hds =>
    rw [List.cons_append, List.cons_append, exponentPart, if_pos (by simpa using he)]
    exact hunsigned hds

theorem exponent_of_exponentPart {exponent : Option (Bool × List Char)}
    (h : exponentPart cs = .ok (exponent, rest))
    : ∃ chars, cs = chars ++ rest ∧ Exponent exponent chars := by
  have hunsigned : ∀ {negative : Bool} {cs : List Char},
      exponentPart.unsigned negative cs = .ok (exponent, rest) →
      ∃ ds, cs = ds ++ rest ∧ AreDigits ds ∧ exponent = some (negative, ds) := by
    intro negative cs h
    obtain ⟨⟨ds, left⟩, hread, h⟩ := Except.bind_eq_ok_iff.mp h
    cases h
    obtain ⟨rfl, hds⟩ := areDigits_of_digits hread
    exact ⟨ds, rfl, hds, rfl⟩
  unfold exponentPart at h
  split at h
  . next c left =>
    split at h
    . next he =>
      have he : c = 'e' ∨ c = 'E' := by simpa using he
      split at h
      . obtain ⟨ds, rfl, hds, rfl⟩ := hunsigned h
        exact ⟨c :: '+' :: ds, rfl, .plus he hds⟩
      . obtain ⟨ds, rfl, hds, rfl⟩ := hunsigned h
        exact ⟨c :: '-' :: ds, rfl, .minus he hds⟩
      . obtain ⟨ds, rfl, hds, rfl⟩ := hunsigned h
        exact ⟨c :: ds, rfl, .plain he hds⟩
    . cases h
      exact ⟨[], rfl, .none⟩
  . cases h
    exact ⟨[], rfl, .none⟩

/-- What may follow the fraction of a number without being taken for more of it. -/
theorem ends_exponent {exponent : Option (Bool × List Char)} (h : Exponent exponent cs)
    (hrest : EndsNumber rest)
    : EndsDigits (cs ++ rest) ∧ (cs ++ rest).head? ≠ some '.' := by
  cases h with
  | none => exact ⟨hrest.endsDigits, fun hhead => (hrest '.' hhead).2.1 rfl⟩
  | plain he _ | plus he _ | minus he _ =>
    rcases he with rfl | rfl
    all_goals simp [EndsDigits, isDigit]

theorem endsDigits_fraction {fraction : Option (List Char)} (h : Fraction fraction cs)
    (hrest : EndsDigits rest)
    : EndsDigits (cs ++ rest) := by
  cases h with
  | none => exact hrest
  | some hds => simp [EndsDigits, isDigit]

/-- A literal is read to its end. -/
theorem read_of_number {l : Literal} (h : Number l cs) (hrest : EndsNumber rest)
    : read (cs ++ rest) = .ok (l, rest) := by
  obtain ⟨negative, whole, fraction, exponent⟩ := l
  cases h with
  | @mk fractionChars exponentChars hwhole hzero hfraction hexponent =>
    obtain ⟨hdigits, hpoint⟩ := ends_exponent hexponent hrest
    have hunsigned : read.unsigned negative (whole ++ (fractionChars ++ (exponentChars ++ rest)))
        = .ok (⟨negative, whole, fraction, exponent⟩, rest) :=
      unsigned_eq
        (wholePart_append hwhole.ne_nil hwhole.digit_of_mem hzero
          (endsDigits_fraction hfraction hdigits))
        (fractionPart_of_fraction hfraction hdigits hpoint)
        (exponentPart_of_exponent hexponent hrest)
    cases negative with
    | true => simpa [read] using hunsigned
    | false =>
      obtain ⟨d, ds, rfl⟩ := List.exists_cons_of_ne_nil hwhole.ne_nil
      obtain ⟨-, hminus⟩ := ne_sign_of_isDigit (hwhole.digit_of_mem d List.mem_cons_self)
      unfold read
      split
      . next heq => exact absurd (List.cons.inj heq).1 hminus
      . simpa using hunsigned

theorem number_of_read {l : Literal} (h : read cs = .ok (l, rest))
    : ∃ chars, cs = chars ++ rest ∧ Number l chars := by
  have hunsigned : ∀ {negative : Bool} {cs : List Char},
      read.unsigned negative cs = .ok (l, rest) →
      ∃ chars, (if negative then ['-'] else []) ++ cs = chars ++ rest ∧ Number l chars := by
    intro negative cs h
    obtain ⟨⟨whole, left⟩, hreadWhole, h⟩ := Except.bind_eq_ok_iff.mp h
    obtain ⟨⟨fraction, left'⟩, hreadFraction, h⟩ := Except.bind_eq_ok_iff.mp h
    obtain ⟨⟨exponent, left''⟩, hreadExponent, h⟩ := Except.bind_eq_ok_iff.mp h
    cases h
    obtain ⟨rfl, hwhole, hzero⟩ := areDigits_of_wholePart hreadWhole
    obtain ⟨fractionChars, rfl, hfraction⟩ := fraction_of_fractionPart hreadFraction
    obtain ⟨exponentChars, rfl, hexponent⟩ := exponent_of_exponentPart hreadExponent
    exact ⟨_, by simp only [List.append_assoc], .mk hwhole hzero hfraction hexponent⟩
  unfold read at h
  split at h
  . obtain ⟨chars, hchars, hl⟩ := hunsigned h
    exact ⟨chars, hchars, hl⟩
  . obtain ⟨chars, hchars, hl⟩ := hunsigned h
    exact ⟨chars, hchars, hl⟩

end Literal
end ChatTelemetry.Json
