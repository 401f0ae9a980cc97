import ChatTelemetry.Text.Segments
import Mathlib.Data.List.Basic

/-!
This module contains the theory of texts that are cut at a given text or character.
-/

namespace ChatTelemetry

namespace Text

theorem dropStart?_eq_some_iff {start cs rest : List Char}
    : dropStart? start cs = some rest ↔ cs = start ++ rest := by
  fun_induction dropStart? start cs with
  | case1 cs => simp
  | case2 s start => simp
  | case3 s start cs ih => simp [ih]
  | case4 s start c cs h => simp [Ne.symm h]

theorem dropStart?_eq_none_iff {start cs : List Char}
    : dropStart? start cs = none ↔ ¬start <+: cs := by
  rw [Option.eq_none_iff_forall_ne_some]
  constructor
  . rintro h ⟨rest, hrest⟩
    exact h rest (dropStart?_eq_some_iff.mpr hrest.symm)
  . rintro h rest hrest
    exact h ⟨rest, (dropStart?_eq_some_iff.mp hrest).symm⟩

theorem dropEnd?_eq_some_iff {ending cs rest : List Char}
    : dropEnd? ending cs = some rest ↔ cs = rest ++ ending := by
  unfold dropEnd?
  rw [Option.map_eq_some_iff]
  constructor
  . rintro ⟨a, ha, rfl⟩
    rw [dropStart?_eq_some_iff] at ha
    rw [← List.reverse_inj, ha]
    simp
  . rintro rfl
    exact ⟨rest.reverse, dropStart?_eq_some_iff.mpr (by simp), by simp⟩

theorem cutAt?_eq_some_iff {separator : Char} {cs before after : List Char}
    : cutAt? separator cs = some (before, after) ↔
        separator ∉ before ∧ cs = before ++ separator :: after := by
  induction cs generalizing before with
  | nil => simp [cutAt?]
  | cons c cs ih =>
    unfold cutAt?
    by_cases hc : c = separator
    . rw [if_pos hc]
      cases before with
      | nil => simp [hc, eq_comm]
      | cons b before =>
        constructor
        . simp
        . rintro ⟨hbefore, heq⟩
          obtain ⟨rfl, -⟩ := List.cons.inj heq
          exact absurd List.mem_cons_self (hc ▸ hbefore)
    . rw [if_neg hc, Option.map_eq_some_iff]
      cases before with
      | nil => simp [hc]
      | cons b before =>
        constructor
        . rintro ⟨⟨before', after'⟩, hcut, heq⟩
          obtain ⟨⟨rfl, rfl⟩, rfl⟩ : (c = b ∧ before' = before) ∧ after' = after := by
            simpa using heq
          obtain ⟨hbefore, rfl⟩ := ih.mp hcut
          exact ⟨by simp [hbefore, Ne.symm hc], rfl⟩
        . rintro ⟨hbefore, heq⟩
          obtain ⟨rfl, hcs⟩ := List.cons.inj heq
          refine ⟨(before, after), ih.mpr ⟨?_, hcs⟩, rfl⟩
          intro h
          exact hbefore (List.mem_cons_of_mem _ h)

end Text

end ChatTelemetry
