import ChatTelemetry.Toml.Text
import Mathlib.Data.List.Basic

/-!
This module contains the theory of texts between double quotes: where they end, and which of them
stand for themselves.
-/

namespace ChatTelemetry
namespace Toml

/-- Whether a text has a double quote with no backslash before it that escapes it. -/
def hasBareQuote (isEscaped : Bool) : List Char → Bool
  | [] => false
  | c :: cs =>
    if isEscaped then hasBareQuote false cs else c == '"' || hasBareQuote (c == '\\') cs

theorem not_mem_of_hasBareQuote {cs : List Char} (h : hasBareQuote false cs = false)
    (hbackslash : '\\' ∉ cs)
    : '"' ∉ cs := by
  induction cs with
  | nil => simp
  | cons c cs ih =>
    simp only [List.mem_cons, not_or] at hbackslash ⊢
    rw [hasBareQuote, beq_eq_false_iff_ne.mpr (Ne.symm hbackslash.1)] at h
    obtain ⟨hc, hcs⟩ : c ≠ '"' ∧ hasBareQuote false cs = false := by
      simpa using h
    exact ⟨Ne.symm hc, ih hcs hbackslash.2⟩

theorem hasBareQuote_append_digits {ds : List Char} (h : ∀ d ∈ ds, (Text.hexValue? d).isSome = true)
    (cs : List Char)
    : hasBareQuote false (ds ++ cs) = hasBareQuote false cs := by
  induction ds with
  | nil => rfl
  | cons d ds ih =>
    have hd := h d (by simp)
    have hquote : d ≠ '"' := by
      rintro rfl
      revert hd
      decide
    have hbackslash : d ≠ '\\' := by
      rintro rfl
      revert hd
      decide
    rw [List.cons_append, hasBareQuote]
    rw [beq_eq_false_iff_ne.mpr hquote, beq_eq_false_iff_ne.mpr hbackslash]
    exact ih (fun e he => h e (by simp [he]))

/-! ### Escapes -/

theorem digits_of_ofScalar? {digits : List Char} {d : Char} (h : ofScalar? digits = some d)
    : ∀ e ∈ digits, (Text.hexValue? e).isSome = true := by
  have hdigits : ∀ {ds : List Char} {start n : Nat},
      (ds.foldlM (fun n d => do return n * 16 + (← Text.hexValue? d)) start : Option Nat) = some n →
      ∀ e ∈ ds, (Text.hexValue? e).isSome = true := by
    intro ds
    induction ds with
    | nil => simp
    | cons c ds ih =>
      intro start n h
      rw [List.foldlM_cons] at h
      obtain ⟨m, hm, hrest⟩ := Option.bind_eq_some_iff.mp h
      obtain ⟨v, hv, _⟩ := Option.bind_eq_some_iff.mp hm
      rw [List.forall_mem_cons]
      exact ⟨by simp [hv], ih hrest⟩
  unfold ofScalar? at h
  obtain ⟨n, hn, _⟩ := Option.bind_eq_some_iff.mp h
  exact hdigits hn

/-- An escape is one character, and digits after it if it takes more. -/
theorem escape?_ok {cs : List Char} {d : Char} {length : Nat} (h : escape? cs = some (d, length))
    : ∃ c ds rest, cs = c :: (ds ++ rest) ∧ length = ds.length + 1 ∧
        ∀ e ∈ ds, (Text.hexValue? e).isSome = true := by
  have hnumbered : ∀ {count : Nat} {rest : List Char},
      escape?.numbered count rest = some (d, length) →
      ∃ ds after, rest = ds ++ after ∧ length = ds.length + 1 ∧
        ∀ e ∈ ds, (Text.hexValue? e).isSome = true := by
    intro count rest h
    unfold escape?.numbered at h
    split at h
    next hcount =>
      rw [Option.map_eq_some_iff] at h
      obtain ⟨d', hd, heq⟩ := h
      cases heq
      refine ⟨rest.take count, rest.drop count, (List.take_append_drop count rest).symm, ?_, ?_⟩
      . rw [hcount]
      . exact digits_of_ofScalar? hd
    next => contradiction
  have hlong : ∀ {count : Nat} {c : Char} {after : List Char},
      escape?.numbered count after = some (d, length) →
      ∃ c' ds rest, c :: after = c' :: (ds ++ rest) ∧ length = ds.length + 1 ∧
        ∀ e ∈ ds, (Text.hexValue? e).isSome = true := by
    intro count c after h
    obtain ⟨ds, rest, hafter, hlength, hds⟩ := hnumbered h
    exact ⟨c, ds, rest, by rw [hafter], hlength, hds⟩
  unfold escape? at h
  split at h
  . exact hlong h
  . exact hlong h
  . exact hlong h
  next c rest _ _ _ =>
    obtain ⟨_, _, heq⟩ := Option.map_eq_some_iff.mp h
    cases heq
    exact ⟨c, [], rest, rfl, rfl, by simp⟩
  . contradiction

theorem basicText?_eq_drop (skipped : Nat) (cs : List Char)
    : basicText? skipped cs = basicText? 0 (cs.drop skipped) := by
  induction cs generalizing skipped with
  | nil => cases skipped <;> rfl
  | cons c cs ih =>
    cases skipped with
    | zero => rfl
    | succ skipped => exact ih skipped

theorem basicText?_cons_of_plain {c : Char} (hquote : c ≠ '"') (hbackslash : c ≠ '\\')
    (hplain : isPlain c = true) (cs : List Char)
    : basicText? 0 (c :: cs) = (basicText? 0 cs).map fun (text, rest) => (c :: text, rest) := by
  rw [basicText?, if_neg hquote, if_neg hbackslash, if_pos hplain]
  cases basicText? 0 cs <;> rfl

/-- Text without quotes and backslashes stands for itself, if all of it is plain. -/
theorem basicText?_append_quote {cs : List Char} (hquote : '"' ∉ cs) (hbackslash : '\\' ∉ cs)
    (rest : List Char)
    : basicText? 0 (cs ++ '"' :: rest) = if cs.all isPlain then some (cs, rest) else none := by
  induction cs with
  | nil => rfl
  | cons c cs ih =>
    simp only [List.mem_cons, not_or] at hquote hbackslash
    rw [List.cons_append, List.all_cons]
    cases hplain : isPlain c with
    | false => simp [basicText?, Ne.symm hquote.1, Ne.symm hbackslash.1, hplain]
    | true =>
      rw [basicText?_cons_of_plain (Ne.symm hquote.1) (Ne.symm hbackslash.1) hplain]
      rw [ih hquote.2 hbackslash.2]
      cases cs.all isPlain <;> rfl

theorem append_cons_eq_append {as bs front after : List Char} {c : Char}
    (h : as ++ c :: bs = front ++ after) (hc : c ∉ front)
    : ∃ mid, as = front ++ mid ∧ after = mid ++ c :: bs := by
  rcases List.append_eq_append_iff.mp h with ⟨mid, hfront, hafter⟩ | ⟨mid, has, hafter⟩
  . cases mid with
    | nil => exact ⟨[], by simpa using hfront.symm, by simpa using hafter.symm⟩
    | cons d mid =>
      obtain ⟨rfl, _⟩ := List.cons.inj hafter
      simp [hfront] at hc
  . exact ⟨mid, has, hafter⟩

theorem escape?_append_quote {cs : List Char} {d : Char} {length : Nat}
    (h : escape? (cs ++ ['"', '\n']) = some (d, length))
    : cs = [] ∧ length = 1 ∨
        ∃ e ds rest, cs = e :: (ds ++ rest) ∧ length = ds.length + 1 ∧
          ∀ e ∈ ds, (Text.hexValue? e).isSome = true := by
  obtain ⟨e, ds, after, hsplit, rfl, hds⟩ := escape?_ok h
  cases cs with
  | nil =>
    obtain ⟨_, hafter⟩ := List.cons.inj hsplit
    cases ds with
    | nil => exact Or.inl ⟨rfl, rfl⟩
    | cons d ds =>
      obtain ⟨rfl, _⟩ := List.cons.inj hafter
      exact absurd (hds '\n' (by simp)) (by decide)
  | cons e' cs =>
    obtain ⟨rfl, hafter⟩ := List.cons.inj hsplit
    have hquote : '"' ∉ ds := by
      intro hmem
      exact absurd (hds '"' hmem) (by decide)
    obtain ⟨rest, rfl, _⟩ := append_cons_eq_append hafter hquote
    exact Or.inr ⟨e', ds, rest, rfl, rfl, hds⟩

/-- A text between quotes, at the end of a line, that has no bare quote goes on to that end. -/
theorem rest_of_basicText? {cs : List Char} (h : hasBareQuote false cs = false)
    {text rest : List Char} (htext : basicText? 0 (cs ++ ['"', '\n']) = some (text, rest))
    : rest = ['\n'] := by
  -- Not by induction on the text itself, since an escape takes several characters at once.
  induction hn : cs.length using Nat.strongRecOn generalizing cs text with
  | ind n ih =>
    cases cs with
    | nil =>
      cases htext
      rfl
    | cons c cs =>
      rw [List.cons_append, basicText?] at htext
      rw [hasBareQuote] at h
      rw [List.length_cons] at hn
      have hquote : c ≠ '"' := by
        rintro rfl
        simp at h
      rw [if_neg hquote] at htext
      by_cases hbackslash : c = '\\'
      . subst hbackslash
        rw [if_pos rfl] at htext
        obtain ⟨⟨d, length⟩, hescape, htext⟩ := Option.bind_eq_some_iff.mp htext
        obtain ⟨⟨text', rest'⟩, htext', heq⟩ := Option.bind_eq_some_iff.mp htext
        cases heq
        rw [basicText?_eq_drop] at htext'
        rcases escape?_append_quote hescape with ⟨rfl, rfl⟩ | ⟨e, ds, cs', rfl, rfl, hds⟩
        -- The backslash escapes the quote, so that the text does not end on its line.
        . contradiction
        . rw [List.cons_append, List.append_assoc, List.drop_succ_cons, List.drop_left] at htext'
          have hcs' : hasBareQuote false cs' = false := by
            rw [← hasBareQuote_append_digits hds]
            simpa [hasBareQuote] using h
          apply ih cs'.length _ hcs' htext' rfl
          rw [List.length_cons, List.length_append] at hn
          omega
      . rw [if_neg hbackslash] at htext
        split at htext
        next =>
          obtain ⟨⟨text', rest'⟩, htext', heq⟩ := Option.bind_eq_some_iff.mp htext
          cases heq
          have hcs : hasBareQuote false cs = false := by
            rw [beq_eq_false_iff_ne.mpr hbackslash] at h
            simpa [hquote] using h
          apply ih cs.length _ hcs htext' rfl
          omega
        next => contradiction

end Toml
end ChatTelemetry
