import ChatTelemetry.Proofs.Entries
import Mathlib.Data.List.DropRight

/-!
This module contains the theory of the reader of trees: `Front` says how a tree that has been read
stands at the front of its text. From this it follows what is left of the text, that a reader with
more levels to spare reads the same, and that passing over a tree leaves what reading it does.
-/

namespace ChatTelemetry.Json

open Payload (nextElement)

/-! ### What is left of a text -/

theorem skipBlanks_skipBlanks (cs : List Char) : skipBlanks (skipBlanks cs) = skipBlanks cs :=
  List.dropWhile_idempotent _ _

theorem nextElement_shorter {isFirst : Bool} {cs begun : List Char}
    (h : nextElement isFirst cs = .ok (some begun))
    : begun.length ≤ (skipBlanks cs).length := by
  unfold nextElement at h
  split at h
  . cases h
  . cases h
  . next c rest hclose hcs =>
    rw [hcs]
    split at h
    . cases h
      exact Nat.le_refl _
    . split at h
      . split at h
        . cases h
        . cases h
        . cases h
          exact (length_skipBlanks_le rest).trans (Nat.le_succ _)
      . cases h

theorem exists_of_nextElement_none {isFirst : Bool} {cs : List Char}
    (h : nextElement isFirst cs = .ok none)
    : ∃ after, skipBlanks cs = ']' :: after := by
  unfold nextElement at h
  split at h
  . cases h
  . next after hcs => exact ⟨after, hcs⟩
  . split at h
    . cases h
    . split at h
      . split at h <;> cases h
      . cases h

theorem ne_of_nextElement_some {isFirst : Bool} {cs begun : List Char}
    (h : nextElement isFirst cs = .ok (some begun)) (after : List Char)
    : skipBlanks cs ≠ ']' :: after := by
  intro hcs
  rw [nextElement, hcs] at h
  cases h

theorem nextMember_shorter {isFirst : Bool} {cs begun : List Char}
    (h : nextMember isFirst cs = .ok (some begun))
    : begun.length ≤ (skipBlanks cs).length := by
  unfold nextMember at h
  split at h
  . cases h
  . cases h
  . next c rest hclose hcs =>
    rw [hcs]
    split at h
    . split at h
      . cases h
        exact Nat.le_succ _
      . cases h
    . split at h
      . split at h
        . cases h
        . next rest' hrest =>
          cases h
          have hblanks := length_skipBlanks_le rest
          rw [hrest] at hblanks
          simp at hblanks ⊢
          omega
        . cases h
      . cases h

theorem length_of_restOfName {name cs rest : List Char} (h : restOfName name cs = .ok rest)
    : rest.length ≤ cs.length := by
  fun_induction restOfName name cs with
  | case1 cs =>
    cases h
    exact Nat.le_refl _
  | case2 => cases h
  | case3 name c cs ih => exact Nat.le_succ_of_le (ih h)
  | case4 => cases h

theorem length_of_skipString {cs rest : List Char} (h : skipString cs = .ok rest)
    : rest.length < cs.length := by
  fun_induction skipString cs with
  | case2 rest' =>
    cases h
    exact Nat.lt_succ_self _
  | case4 a b c d rest' n hquad ih =>
    have := ih h
    simp
    omega
  | case7 rest' c hne hu hsome ih =>
    have := ih h
    simp
    omega
  | case10 rest' c hquote hquad hshort hend hescape hplain ih =>
    exact (ih h).trans (Nat.lt_succ_self _)
  | _ => cases h

/-- Only what is a text can be passed over as one, and this leaves the same. -/
theorem skipString_of_stringBody {done cs rest : List Char} {s : String}
    (h : stringBody done cs = .ok (s, rest))
    : skipString cs = .ok rest := by
  fun_induction stringBody done cs with
  | case2 =>
    cases h
    simp [skipString]
  | case6 done a b c d n hquad hlow hhigh a' b' c' d' rest' m hquad' hlow' ih =>
    simpa [skipString, hquad, hquad'] using ih h
  | case12 done a b c d rest' n hquad hlow hhigh ih =>
    simpa [skipString, hquad] using ih h
  | case15 done c rest' hquad hu c' hsome ih =>
    rw [skipString]
    . simp [hsome, ih h]
    all_goals assumption
  | case18 done c rest' hquote hquad hshort hend hescape hplain ih =>
    rw [skipString]
    . simp [hplain, ih h]
    all_goals assumption
  | _ => cases h

theorem length_of_stringBody {done cs rest : List Char} {s : String}
    (h : stringBody done cs = .ok (s, rest))
    : rest.length < cs.length :=
  length_of_skipString (skipString_of_stringBody h)

theorem length_of_colon {cs rest : List Char} (h : colon cs = .ok rest)
    : rest.length < cs.length := by
  unfold colon at h
  split at h
  . cases h
  . next rest' hcs =>
    cases h
    have := length_skipBlanks_le cs
    rw [hcs] at this
    exact this
  . cases h

namespace Literal

theorem length_of_digits {cs ds rest : List Char} (h : digits cs = .ok (ds, rest))
    : rest.length < cs.length := by
  unfold digits at h
  split at h
  . cases h
  . next c cs =>
    split at h
    . next hc =>
      cases h
      rw [List.dropWhile_cons_of_pos hc]
      exact Nat.lt_succ_of_le (List.dropWhile_suffix _).length_le
    . cases h

theorem length_of_wholePart {cs ds rest : List Char} (h : wholePart cs = .ok (ds, rest))
    : rest.length < cs.length := by
  unfold wholePart at h
  split at h
  . split at h
    . cases h
    . cases h
      exact Nat.lt_succ_self _
  . exact length_of_digits h

theorem length_of_fractionPart {cs rest : List Char} {fraction : Option (List Char)}
    (h : fractionPart cs = .ok (fraction, rest))
    : rest.length ≤ cs.length := by
  unfold fractionPart at h
  split at h
  . obtain ⟨⟨ds, rest⟩, hds, h⟩ := Except.bind_eq_ok_iff.mp h
    cases h
    exact (length_of_digits hds).le.trans (Nat.le_succ _)
  . cases h
    exact Nat.le_refl _

theorem length_of_exponentPart {cs rest : List Char} {exponent : Option (Bool × List Char)}
    (h : exponentPart cs = .ok (exponent, rest))
    : rest.length ≤ cs.length := by
  have hunsigned : ∀ {negative : Bool} {cs : List Char},
      exponentPart.unsigned negative cs = .ok (exponent, rest) → rest.length ≤ cs.length := by
    intro negative cs h
    obtain ⟨⟨ds, rest⟩, hds, h⟩ := Except.bind_eq_ok_iff.mp h
    cases h
    exact (length_of_digits hds).le
  unfold exponentPart at h
  split at h
  . split at h
    . split at h
      all_goals
        have := hunsigned h
        simp at this ⊢
        omega
    . cases h
      exact Nat.le_refl _
  . cases h
    exact Nat.le_refl _

theorem length_of_read {cs rest : List Char} {literal : Literal}
    (h : read cs = .ok (literal, rest))
    : rest.length < cs.length := by
  have hunsigned : ∀ {negative : Bool} {cs : List Char},
      read.unsigned negative cs = .ok (literal, rest) → rest.length < cs.length := by
    intro negative cs h
    obtain ⟨⟨whole, left⟩, hwhole, h⟩ := Except.bind_eq_ok_iff.mp h
    obtain ⟨⟨fraction, left'⟩, hfraction, h⟩ := Except.bind_eq_ok_iff.mp h
    obtain ⟨⟨exponent, left''⟩, hexponent, h⟩ := Except.bind_eq_ok_iff.mp h
    cases h
    have := length_of_wholePart hwhole
    have := length_of_fractionPart hfraction
    have := length_of_exponentPart hexponent
    omega
  unfold read at h
  split at h
  . exact (hunsigned h).trans (Nat.lt_succ_self _)
  . exact hunsigned h

end Literal

theorem read_of_number {cs rest : List Char} {v : Value} (h : number cs = .ok (v, rest))
    : ∃ literal, Literal.read cs = .ok (literal, rest) ∧ literal.value? = some v := by
  obtain ⟨⟨literal, left⟩, hread, h⟩ := Except.bind_eq_ok_iff.mp h
  cases hv : literal.value? with
  | none =>
    simp [hv] at h
  | some w =>
    simp only [hv] at h
    cases h
    exact ⟨literal, hread, hv⟩

theorem Literal.isNumber_of_value? {literal : Literal} {v : Value} (h : literal.value? = some v)
    : (∃ n, v = .int n) ∨ ∃ x, v = .double x := by
  unfold value? at h
  dsimp only at h
  split at h
  . cases h
    exact .inl ⟨_, rfl⟩
  . split at h
    . cases h
      exact .inl ⟨_, rfl⟩
    . obtain ⟨x, -, rfl⟩ := Option.map_eq_some_iff.mp h
      exact .inr ⟨x, rfl⟩

theorem isNumber_of_number {cs rest : List Char} {v : Value} (h : number cs = .ok (v, rest))
    : (∃ n, v = .int n) ∨ ∃ x, v = .double x := by
  obtain ⟨literal, -, hv⟩ := read_of_number h
  exact literal.isNumber_of_value? hv

/-- What a number begins with, nothing else does. -/
theorem ne_of_beginsNumber {c : Char} (hc : (c == '-' || isDigit c) = true)
    : c ≠ 'n' ∧ c ≠ '"' ∧ c ≠ '[' ∧ c ≠ '{' := by
  refine ⟨?_, ?_, ?_, ?_⟩
  all_goals
    rintro rfl
    revert hc
    decide

/-! ### What stands at the front -/

def BeginsWith (depth : Nat) (cs : List Char) (v : Value) (rest : List Char) : Prop :=
  value depth cs = .ok (v, rest)

/-- As `BeginsWith` for a field of an object, from behind the quote that opens its key. -/
def BeginsWithField (depth : Nat) (cs : List Char) (f : String × Value) (rest : List Char) : Prop :=
  ∃ left begun,
    stringBody [] cs = .ok (f.1, left) ∧ colon left = .ok begun ∧ BeginsWith depth begun f.2 rest

/-- How a tree stands at the front of a text that begins with no blank. -/
inductive Front : (depth : Nat) → List Char → Value → List Char → Prop
  | null {depth : Nat} {cs rest : List Char} (h : restOfName ['u', 'l', 'l'] cs = .ok rest)
    : Front depth ('n' :: cs) .null rest
  | true {depth : Nat} {cs rest : List Char} (h : restOfName ['r', 'u', 'e'] cs = .ok rest)
    : Front depth ('t' :: cs) (.bool true) rest
  | false {depth : Nat} {cs rest : List Char} (h : restOfName ['a', 'l', 's', 'e'] cs = .ok rest)
    : Front depth ('f' :: cs) (.bool false) rest
  | string {depth : Nat} {cs rest : List Char} {s : String} (h : stringBody [] cs = .ok (s, rest))
    : Front depth ('"' :: cs) (.string s) rest
  | array {depth : Nat} {cs rest : List Char} {vs : List Value}
    (h : Entries nextElement (BeginsWith depth) true cs vs rest)
    : Front (depth + 1) ('[' :: cs) (.array vs) rest
  | object {depth : Nat} {cs rest : List Char} {fields : List (String × Value)}
    (h : Entries nextMember (BeginsWithField depth) true cs fields rest)
    : Front (depth + 1) ('{' :: cs) (.object fields) rest
  | number {depth : Nat} {c : Char} {cs rest : List Char} {v : Value}
    (hc : (c == '-' || isDigit c) = true) (h : number (c :: cs) = .ok (v, rest))
    : Front depth (c :: cs) v rest

theorem front_of_value {depth : Nat} {cs rest : List Char} {v : Value}
    (h : value depth cs = .ok (v, rest))
    : Front depth (skipBlanks cs) v rest := by
  unfold value at h
  split at h
  . cases h
  . next cs' hcs =>
    obtain ⟨left, hname, h⟩ := Except.bind_eq_ok_iff.mp h
    cases h
    exact hcs ▸ .null hname
  . next cs' hcs =>
    obtain ⟨left, hname, h⟩ := Except.bind_eq_ok_iff.mp h
    cases h
    exact hcs ▸ .true hname
  . next cs' hcs =>
    obtain ⟨left, hname, h⟩ := Except.bind_eq_ok_iff.mp h
    cases h
    exact hcs ▸ .false hname
  . next cs' hcs =>
    obtain ⟨⟨s, left⟩, hs, h⟩ := Except.bind_eq_ok_iff.mp h
    cases h
    exact hcs ▸ .string hs
  . next cs' hcs =>
    cases depth with
    | zero => cases h
    | succ depth =>
      obtain ⟨⟨items, left⟩, hitems, h⟩ := Except.bind_eq_ok_iff.mp h
      cases h
      rw [hcs]
      refine .array (entries_of_elements ?_ hitems)
      intro done cs done' left hstep
      obtain ⟨⟨v, left'⟩, hv, hstep⟩ := Except.bind_eq_ok_iff.mp hstep
      cases hstep
      exact ⟨v, rfl, hv⟩
  . next cs' hcs =>
    cases depth with
    | zero => cases h
    | succ depth =>
      obtain ⟨⟨fields, left⟩, hfields, h⟩ := Except.bind_eq_ok_iff.mp h
      cases h
      rw [hcs]
      refine .object (entries_of_members ?_ hfields)
      intro done cs done' left hstep
      obtain ⟨⟨k, afterKey⟩, hk, hstep⟩ := Except.bind_eq_ok_iff.mp hstep
      obtain ⟨begun, hcolon, hstep⟩ := Except.bind_eq_ok_iff.mp hstep
      obtain ⟨⟨v, left'⟩, hv, hstep⟩ := Except.bind_eq_ok_iff.mp hstep
      cases hstep
      exact ⟨(k, v), rfl, afterKey, begun, hk, hcolon, hv⟩
  . next c cs' _ _ _ _ _ _ hcs =>
    split at h
    . next hc => exact hcs ▸ .number hc h
    . cases h

theorem length_of_value {depth : Nat} {cs rest : List Char} {v : Value}
    (h : value depth cs = .ok (v, rest))
    : rest.length < cs.length := by
  induction depth using Nat.strongRecOn generalizing cs rest v with
  | ind depth ih =>
    refine Nat.lt_of_lt_of_le ?_ (length_skipBlanks_le cs)
    have hfront := front_of_value h
    generalize skipBlanks cs = cs at hfront
    cases hfront with
    | null h | true h | false h => exact Nat.lt_succ_of_le (length_of_restOfName h)
    | string h => exact (length_of_stringBody h).trans (Nat.lt_succ_self _)
    | @array depth cs _ vs h =>
      have hle := h.length_le nextElement_shorter (ih depth (Nat.lt_succ_self _))
      exact Nat.lt_succ_of_le (hle.trans (length_skipBlanks_le cs))
    | @object depth cs _ fields h =>
      have hle := h.length_le nextMember_shorter (by
        rintro cs f rest ⟨left, begun, hkey, hcolon, hv⟩
        have := length_of_stringBody hkey
        have := length_of_colon hcolon
        have := ih depth (Nat.lt_succ_self _) hv
        omega)
      exact Nat.lt_succ_of_le (hle.trans (length_skipBlanks_le cs))
    | number hc h =>
      obtain ⟨literal, hread, -⟩ := read_of_number h
      exact Literal.length_of_read hread

theorem BeginsWithField.length_lt {depth : Nat} {cs rest : List Char} {f : String × Value}
    (h : BeginsWithField depth cs f rest)
    : rest.length < cs.length := by
  obtain ⟨left, begun, hkey, hcolon, hv⟩ := h
  have := length_of_stringBody hkey
  have := length_of_colon hcolon
  have := length_of_value hv
  omega

/-! ### Reading what stands there -/

theorem value_of_front {depth : Nat} {cs rest : List Char} {v : Value}
    (h : Front depth (skipBlanks cs) v rest)
    : value depth cs = .ok (v, rest) := by
  rw [value]
  generalize skipBlanks cs = cs at h
  cases h with
  | null h | true h | false h | string h =>
    simp only [h]
    rfl
  | @array depth cs _ vs h =>
    simp only [elements_eq]
    rw [h.loop_eq_foldl nextElement_shorter length_of_value fun items v => v :: items]
    . simp [bind, Except.bind, pure, Except.pure]
    . intro cs v left hv hcs items
      rw [hv]
      rfl
  | @object depth cs _ fields h =>
    simp only [members_eq]
    rw [h.loop_eq_foldl nextMember_shorter BeginsWithField.length_lt fun fields f => f :: fields]
    . simp [bind, Except.bind, pure, Except.pure]
    . rintro cs f left ⟨afterKey, begun, hkey, hcolon, hv⟩ hcs fields
      unfold BeginsWith at hv
      simp only [keyed, hkey, hcolon, hv, bind, Except.bind]
      rfl
  | number hc h =>
    split
    all_goals
      rename_i heq
      cases heq
    all_goals first
      | exact absurd hc (by decide)
      | rw [if_pos hc, h]

theorem value_eq_ok_iff {depth : Nat} {cs rest : List Char} {v : Value}
    : value depth cs = .ok (v, rest) ↔ Front depth (skipBlanks cs) v rest :=
  ⟨front_of_value, value_of_front⟩

/-- A reader that may go deeper reads the same. -/
theorem value_of_le {depth depth' : Nat} {cs rest : List Char} {v : Value}
    (h : value depth cs = .ok (v, rest)) (hle : depth ≤ depth')
    : value depth' cs = .ok (v, rest) := by
  induction depth using Nat.strongRecOn generalizing depth' cs rest v with
  | ind depth ih =>
    rw [value_eq_ok_iff] at h ⊢
    generalize skipBlanks cs = cs at h
    cases h with
    | null h => exact .null h
    | true h => exact .true h
    | false h => exact .false h
    | string h => exact .string h
    | @array depth _ _ vs h =>
      obtain ⟨depth', rfl⟩ : ∃ d, depth' = d + 1 := ⟨depth' - 1, by omega⟩
      have hle : depth ≤ depth' := Nat.le_of_succ_le_succ hle
      exact .array (h.mono fun hv => ih depth (Nat.lt_succ_self _) hv hle)
    | @object depth _ _ fields h =>
      obtain ⟨depth', rfl⟩ : ∃ d, depth' = d + 1 := ⟨depth' - 1, by omega⟩
      have hle : depth ≤ depth' := Nat.le_of_succ_le_succ hle
      exact .object (h.mono fun ⟨left, begun, hkey, hcolon, hv⟩ =>
        ⟨left, begun, hkey, hcolon, ih depth (Nat.lt_succ_self _) hv hle⟩)
    | number hc h => exact .number hc h

theorem value_skipBlanks (depth : Nat) (cs : List Char)
    : value depth (skipBlanks cs) = value depth cs := by
  rw [value, value, skipBlanks_skipBlanks]

/-- A number is read in the same way wherever it stands. -/
theorem value_zero_of_int {depth : Nat} {cs rest : List Char} {n : Int}
    (h : value depth cs = .ok (.int n, rest))
    : value 0 cs = .ok (.int n, rest) := by
  rw [value_eq_ok_iff] at h ⊢
  generalize skipBlanks cs = cs at h
  cases h with
  | number hc h => exact .number hc h

/-! ### Passing over what stands there -/

theorem exists_fuel {c : Char} {cs : List Char} {fuel : Nat} (h : (c :: cs).length ≤ fuel)
    : ∃ k, fuel = k + 1 ∧ (skipBlanks cs).length ≤ k := by
  have := length_skipBlanks_le cs
  rw [List.length_cons] at h
  exact ⟨fuel - 1, by omega, by omega⟩

theorem skipWithin_of_value {depth fuel : Nat} {cs rest : List Char} {v : Value}
    (h : value depth cs = .ok (v, rest)) (hfuel : cs.length ≤ fuel)
    : skipWithin fuel cs = .ok rest := by
  induction depth using Nat.strongRecOn generalizing cs rest v fuel with
  | ind depth ih =>
    have hfront := front_of_value h
    have hblanks := length_skipBlanks_le cs
    rw [skipWithin]
    generalize skipBlanks cs = cs at hfront hblanks
    cases hfront with
    | null h | true h | false h => exact h
    | string h => exact skipString_of_stringBody h
    | @array depth cs _ vs h =>
      obtain ⟨fuel, rfl, hle⟩ := exists_fuel (hblanks.trans hfuel)
      simp only [elements_eq]
      rw [h.loop_eq_foldl nextElement_shorter length_of_value fun _ _ => ()]
      . rfl
      . intro begun v left hv hbegun _
        rw [ih depth (Nat.lt_succ_self _) hv (hbegun.trans hle)]
        rfl
    | @object depth cs _ fields h =>
      obtain ⟨fuel, rfl, hle⟩ := exists_fuel (hblanks.trans hfuel)
      simp only [members_eq]
      rw [h.loop_eq_foldl nextMember_shorter BeginsWithField.length_lt fun _ _ => ()]
      . rfl
      . rintro begun f left ⟨afterKey, begun', hkey, hcolon, hv⟩ hbegun _
        have hshorter : begun'.length ≤ fuel := by
          have := length_of_stringBody hkey
          have := length_of_colon hcolon
          omega
        simp only [keyed, skipString_of_stringBody hkey, bind, Except.bind, pure, Except.pure]
        rw [hcolon]
        simp only [ih depth (Nat.lt_succ_self _) hv hshorter]
    | number hc h =>
      obtain ⟨literal, hread, -⟩ := read_of_number h
      split
      all_goals
        rename_i heq
        cases heq
      all_goals first
        | exact absurd hc (by decide)
        | rw [if_pos hc, skipNumber, hread]

/-- Passing over a tree leaves what reading it does. -/
theorem skip_of_value {depth : Nat} {cs rest : List Char} {v : Value}
    (h : value depth cs = .ok (v, rest))
    : skip cs = .ok rest :=
  skipWithin_of_value h (Nat.le_refl _)

end ChatTelemetry.Json
