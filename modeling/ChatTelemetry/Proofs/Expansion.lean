import ChatTelemetry.Proofs.Outcome
import ChatTelemetry.Proofs.PlaceholderForm

/-!
This module contains the theory of replacing placeholders in a text, one line after the other and
in a line from left to right.
-/

namespace ChatTelemetry
namespace Config

namespace Placeholder

theorem atFront?_cons_of_ne {c : Char} (h : c ≠ '\x7b') (cs : List Char)
    : atFront? (c :: cs) = none := by
  simp [atFront?, Text.dropStart?, Ne.symm h]

/-- A placeholder as it is written with one blank on either side of its key. -/
theorem atFront?_written {key : List Char} (hkey : key ≠ [])
    (hchars : ∀ c ∈ key, isKeyChar c = true) (rest : List Char)
    : atFront? ('\x7b' :: '\x7b' :: ' ' :: (key ++ ' ' :: '\x7d' :: '\x7d' :: rest))
        =
      some (⟨key, none⟩, rest) := by
  have hblank : AreBlank [' '] := List.forall_mem_singleton.mpr rfl
  have hwritten := IsWritten.intro hblank ⟨hkey, hchars⟩ hblank .none
  simpa using atFront?_of_isWritten hwritten rest

theorem resolve_variable {env : Environment} {name : List Char} {v : String} (hname : name ≠ [])
    (hdot : '.' ∉ name) (h : env.get? (.ofList name) = some v) (fallback : Option (List Char))
    : (Placeholder.mk ("env.".toList ++ name) fallback).resolve env = .ok v.toList := by
  simp [resolve, variableName?, Text.dropStart?, hname, hdot, h]

end Placeholder

theorem isComment_iff {line : List Char}
    : isComment line = true ↔
        ∃ before rest, Placeholder.AreBlank before ∧ line = before ++ '#' :: rest := by
  unfold isComment
  rw [List.isPrefixOf_iff_prefix]
  constructor
  . rintro ⟨rest, hrest⟩
    obtain ⟨before, hblank, hline⟩ := Placeholder.exists_skipBlanks line
    exact ⟨before, rest, hblank, hline.trans (congrArg (before ++ ·) hrest.symm)⟩
  . rintro ⟨before, rest, hblank, rfl⟩
    have hskip := Placeholder.skipBlanks_append hblank ('#' :: rest)
    rw [Placeholder.skipBlanks_cons (by decide)] at hskip
    exact ⟨rest, hskip.symm⟩

variable (env : Environment)

theorem expandLine_eq_drop (skipped : Nat) (cs : List Char)
    : expandLine env skipped cs = expandLine env 0 (cs.drop skipped) := by
  induction cs generalizing skipped with
  | nil => cases skipped <;> rfl
  | cons c cs ih =>
    cases skipped with
    | zero => rfl
    | succ skipped => exact ih skipped

theorem expandLine_cons (c : Char) (cs : List Char)
    : expandLine env 0 (c :: cs)
        =
      match Placeholder.atFront? (c :: cs) with
      | none => (expandLine env 0 cs).map (c :: ·)
      | some (p, rest) =>
        (p.resolve env).bind fun text =>
          (expandLine env 0 (cs.drop (cs.length - rest.length))).map (text ++ ·) := by
  rw [expandLine]
  cases Placeholder.atFront? (c :: cs) with
  | none => cases expandLine env 0 cs <;> rfl
  | some found =>
    dsimp only
    rw [← expandLine_eq_drop]
    cases found.1.resolve env with
    | error e => rfl
    | ok text => cases expandLine env (cs.length - found.2.length) cs <;> rfl

theorem expandLine_append {cs : List Char} (h : '\x7b' ∉ cs) (rest : List Char)
    : expandLine env 0 (cs ++ rest) = (expandLine env 0 rest).map (cs ++ ·) := by
  induction cs with
  | nil =>
    rw [List.nil_append]
    cases expandLine env 0 rest <;> rfl
  | cons c cs ih =>
    simp only [List.mem_cons, not_or] at h
    obtain ⟨hc, hcs⟩ := h
    rw [List.cons_append, expandLine_cons, Placeholder.atFront?_cons_of_ne (Ne.symm hc)]
    dsimp only
    rw [ih hcs]
    cases expandLine env 0 rest <;> rfl

theorem expandLine_placeholder {front rest : List Char} {p : Placeholder} (hfront : front ≠ [])
    (h : Placeholder.atFront? (front ++ rest) = some (p, rest))
    : expandLine env 0 (front ++ rest)
        =
      (p.resolve env).bind fun text => (expandLine env 0 rest).map (text ++ ·) := by
  cases front with
  | nil => contradiction
  | cons c front =>
    rw [List.cons_append] at h ⊢
    rw [expandLine_cons, h]
    have hrest : (front ++ rest).drop ((front ++ rest).length - rest.length) = rest := by
      simp
    dsimp only
    rw [hrest]

theorem lines_append_newline {l : List Char} (h : '\n' ∉ l) (rest : List Char)
    : lines (l ++ '\n' :: rest) = (l ++ ['\n']) :: lines rest := by
  induction l with
  | nil => simp [lines]
  | cons c l ih =>
    simp only [List.mem_cons, not_or] at h
    obtain ⟨hc, hl⟩ := h
    rw [List.cons_append]
    rw [lines, if_neg (Ne.symm hc), ih hl]
    rfl

theorem expandLine_of_not_mem {cs : List Char} (h : '\x7b' ∉ cs)
    : expandLine env 0 cs = .ok cs := by
  have happend := expandLine_append env h []
  rw [List.append_nil] at happend
  rw [happend]
  simp [expandLine, Except.map]

theorem expand_append_newline {l : List Char} (h : '\n' ∉ l) (rest : List Char)
    : expand env (l ++ '\n' :: rest)
        =
      (if isComment (l ++ ['\n']) then .ok (l ++ ['\n'])
        else expandLine env 0 (l ++ ['\n'])).bind fun line =>
          (expand env rest).map (line ++ ·) := by
  unfold expand
  rw [lines_append_newline h, List.mapM_cons]
  generalize (if isComment (l ++ ['\n']) then Except.ok (l ++ ['\n'])
    else expandLine env 0 (l ++ ['\n'])) = line
  cases line with
  | error e => rfl
  | ok line =>
    cases (lines rest).mapM fun line =>
        if isComment line then .ok line else expandLine env 0 line with
    | error e => rfl
    | ok expanded => rfl

theorem lines_of_not_mem {line : List Char} (hne : line ≠ []) (hbreak : '\n' ∉ line)
    : lines line = [line] := by
  induction line with
  | nil => contradiction
  | cons c line ih =>
    simp only [List.mem_cons, not_or] at hbreak
    obtain ⟨hc, hline⟩ := hbreak
    rw [lines, if_neg (Ne.symm hc)]
    by_cases hempty : line = []
    . rw [hempty]
      rfl
    . rw [ih hempty hline]

theorem lines_ne_nil {cs : List Char} (h : cs ≠ []) : lines cs ≠ [] := by
  cases cs with
  | nil => contradiction
  | cons c cs =>
    rw [lines]
    split
    . simp
    . split <;> simp

theorem lines_append_break (front rest : List Char)
    : lines (front ++ '\n' :: rest) = lines (front ++ ['\n']) ++ lines rest := by
  induction front with
  | nil => exact lines_append_newline List.not_mem_nil rest
  | cons c front ih =>
    rw [List.cons_append, List.cons_append, lines, lines, ih]
    by_cases hc : c = '\n'
    . rw [if_pos hc, if_pos hc, List.cons_append]
    . rw [if_neg hc, if_neg hc]
      cases hfront : lines (front ++ ['\n']) with
      | nil => exact absurd hfront (lines_ne_nil (by simp))
      | cons line others => rfl

theorem expand_append_break (front rest : List Char)
    : expand env (front ++ '\n' :: rest)
        =
      (do
        let before ← expand env (front ++ ['\n'])
        let after ← expand env rest
        return before ++ after) := by
  unfold expand
  rw [lines_append_break, List.mapM_append]
  generalize (fun line => if isComment line then .ok line else expandLine env 0 line) = replaced
  cases (lines (front ++ ['\n'])).mapM replaced with
  | error e => rfl
  | ok before =>
    cases (lines rest).mapM replaced with
    | error e => rfl
    | ok after => exact congrArg Except.ok List.flatten_append

end Config
end ChatTelemetry
