import ChatTelemetry.Proofs.PlaceholderForm

/-!
This module cuts a text into characters that are copied and placeholders that are replaced, and
shows that there is just one way to do so.
-/

namespace ChatTelemetry
namespace Config

open Placeholder (AreBlank IsWritten atFront? atFront?_eq_some_iff atFront?_of_isWritten)

/-! ### A text in pieces -/

inductive Piece
  | copied (c : Char)
  | placeholder (p : Placeholder) (written : List Char)

def Piece.chars : Piece → List Char
  | copied c => [c]
  | placeholder _ written => written

/--
The pieces of a line from left to right: a placeholder wherever one is written, and a character
where none begins.
-/
inductive InLine : List Char → List Piece → Prop
  | nil : InLine [] []
  | placeholder {p : Placeholder} {written rest : List Char} {pieces : List Piece}
    (hwritten : IsWritten p written) (hrest : InLine rest pieces)
    : InLine (written ++ rest) (.placeholder p written :: pieces)
  | copied {c : Char} {cs : List Char} {pieces : List Piece}
    (hnone : ¬∃ p written rest, IsWritten p written ∧ c :: cs = written ++ rest)
    (hcs : InLine cs pieces)
    : InLine (c :: cs) (.copied c :: pieces)

/--
A line whose first character is `#`, white space aside, is a comment, which has no placeholders.
-/
inductive OfLine (line : List Char) : List Piece → Prop
  | comment {before rest : List Char} (hblank : AreBlank before)
    (hline : line = before ++ '#' :: rest)
    : OfLine line (line.map .copied)
  | text {pieces : List Piece}
    (hline : ¬∃ before rest, AreBlank before ∧ line = before ++ '#' :: rest)
    (hpieces : InLine line pieces)
    : OfLine line pieces

/-- The pieces of a text, which is cut after each line break. -/
inductive OfText : List Char → List Piece → Prop
  | nil : OfText [] []
  | last {line : List Char} {pieces : List Piece} (hne : line ≠ []) (hbreak : '\n' ∉ line)
    (hline : OfLine line pieces)
    : OfText line pieces
  | more {line rest : List Char} {pieces others : List Piece} (hbreak : '\n' ∉ line)
    (hline : OfLine (line ++ ['\n']) pieces) (hrest : OfText rest others)
    : OfText (line ++ '\n' :: rest) (pieces ++ others)

/-! ### There is one way to cut a text -/

theorem exists_inLine (cs : List Char) : ∃ pieces, InLine cs pieces := by
  cases cs with
  | nil => exact ⟨[], .nil⟩
  | cons c cs =>
    cases h : atFront? (c :: cs) with
    | none =>
      obtain ⟨pieces, hpieces⟩ := exists_inLine cs
      refine ⟨_, .copied ?_ hpieces⟩
      rintro ⟨p, written, rest, hwritten, hcs⟩
      rw [hcs, atFront?_of_isWritten hwritten rest] at h
      contradiction
    | some found =>
      obtain ⟨p, rest⟩ := found
      obtain ⟨written, hwritten, hcs⟩ := atFront?_eq_some_iff.mp h
      have hlength : rest.length < (c :: cs).length := by
        have := List.length_pos_of_ne_nil hwritten.ne_nil
        rw [hcs, List.length_append]
        omega
      obtain ⟨pieces, hpieces⟩ := exists_inLine rest
      rw [hcs]
      exact ⟨_, .placeholder hwritten hpieces⟩
termination_by cs.length
decreasing_by
  . exact Nat.lt_succ_self cs.length
  . exact hlength

theorem InLine.unique {cs : List Char} {pieces others : List Piece} (h : InLine cs pieces)
    (h' : InLine cs others)
    : others = pieces := by
  induction h generalizing others with
  | nil =>
    generalize hcs : ([] : List Char) = cs at h'
    cases h' with
    | nil => rfl
    | placeholder hwritten hrest => simp [hwritten.ne_nil] at hcs
    | copied hnone hrest => contradiction
  | @placeholder p written rest pieces hwritten hrest ih =>
    generalize hcs : written ++ rest = cs at h'
    cases h' with
    | nil => simp [hwritten.ne_nil] at hcs
    | placeholder hwritten' hrest' =>
      -- Only one placeholder is found at the front, with one rest.
      have hfound := atFront?_of_isWritten hwritten rest
      rw [hcs, atFront?_of_isWritten hwritten'] at hfound
      obtain ⟨rfl, rfl⟩ : _ ∧ _ := by simpa using hfound
      rw [List.append_cancel_right hcs, ih hrest']
    | copied hnone hrest' => exact absurd ⟨p, written, rest, hwritten, hcs.symm⟩ hnone
  | @copied c cs pieces hnone hcs ih =>
    generalize heq : c :: cs = cs' at h'
    cases h' with
    | nil => contradiction
    | placeholder hwritten hrest => exact absurd ⟨_, _, _, hwritten, heq⟩ hnone
    | copied hnone' hrest =>
      obtain ⟨rfl, rfl⟩ := List.cons.inj heq
      rw [ih hrest]

theorem exists_ofLine (line : List Char) : ∃ pieces, OfLine line pieces := by
  by_cases hline : ∃ before rest, AreBlank before ∧ line = before ++ '#' :: rest
  . obtain ⟨before, rest, hblank, hline⟩ := hline
    exact ⟨_, .comment hblank hline⟩
  . obtain ⟨pieces, hpieces⟩ := exists_inLine line
    exact ⟨pieces, .text hline hpieces⟩

theorem OfLine.unique {line : List Char} {pieces others : List Piece} (h : OfLine line pieces)
    (h' : OfLine line others)
    : others = pieces := by
  cases h with
  | comment hblank hline =>
    cases h' with
    | comment _ _ => rfl
    | text hnone _ => exact absurd ⟨_, _, hblank, hline⟩ hnone
  | text hnone hpieces =>
    cases h' with
    | comment hblank hline => exact absurd ⟨_, _, hblank, hline⟩ hnone
    | text _ hpieces' => exact hpieces.unique hpieces'

theorem exists_ofText (cs : List Char) : ∃ pieces, OfText cs pieces := by
  by_cases hbreak : '\n' ∈ cs
  . obtain ⟨line, rest, hcs, hline⟩ := List.eq_append_cons_of_mem hbreak
    have hlength : rest.length < cs.length := by
      rw [hcs, List.length_append, List.length_cons]
      omega
    obtain ⟨pieces, hpieces⟩ := exists_ofLine (line ++ ['\n'])
    obtain ⟨others, hothers⟩ := exists_ofText rest
    rw [hcs]
    exact ⟨_, .more hline hpieces hothers⟩
  . by_cases hne : cs = []
    . subst hne
      exact ⟨[], .nil⟩
    . obtain ⟨pieces, hpieces⟩ := exists_ofLine cs
      exact ⟨pieces, .last hne hbreak hpieces⟩
termination_by cs.length

theorem OfText.unique {cs : List Char} {pieces others : List Piece} (h : OfText cs pieces)
    (h' : OfText cs others)
    : others = pieces := by
  induction h generalizing others with
  | nil =>
    generalize hcs : ([] : List Char) = cs at h'
    cases h' with
    | nil => rfl
    | last hne => exact absurd hcs.symm hne
    | more => simp at hcs
  | @last line pieces hne hbreak hline =>
    generalize hcs : line = cs at h'
    cases h' with
    | nil => contradiction
    | last _ _ hline' => exact hline.unique (hcs ▸ hline')
    | more => simp [hcs] at hbreak
  | @more line rest pieces rests hbreak hline hrest ih =>
    generalize hcs : line ++ '\n' :: rest = cs at h'
    cases h' with
    | nil => simp at hcs
    | last _ hbreak' => simp [← hcs] at hbreak'
    | more hbreak' hline' hrest' =>
      -- Both ways cut at the first line break.
      have hcut := Text.cutAt?_eq_some_iff.mpr ⟨hbreak, hcs.symm⟩
      rw [Text.cutAt?_eq_some_iff.mpr ⟨hbreak', rfl⟩] at hcut
      obtain ⟨rfl, rfl⟩ : _ ∧ _ := by simpa using hcut
      rw [hline.unique hline', ih hrest']

theorem InLine.flatMap_chars {cs : List Char} {pieces : List Piece} (h : InLine cs pieces)
    : pieces.flatMap Piece.chars = cs := by
  induction h with
  | nil => rfl
  | placeholder hwritten hrest ih => rw [List.flatMap_cons, ih, Piece.chars]
  | copied hnone hcs ih => rw [List.flatMap_cons, ih, Piece.chars, List.singleton_append]

theorem OfLine.flatMap_chars {line : List Char} {pieces : List Piece} (h : OfLine line pieces)
    : pieces.flatMap Piece.chars = line := by
  cases h with
  | comment hblank hline => simp [List.flatMap_map, Piece.chars]
  | text hnone hpieces => exact hpieces.flatMap_chars

theorem OfText.flatMap_chars {cs : List Char} {pieces : List Piece} (h : OfText cs pieces)
    : pieces.flatMap Piece.chars = cs := by
  induction h with
  | nil => rfl
  | last hne hbreak hline => exact hline.flatMap_chars
  | more hbreak hline hrest ih => simp [hline.flatMap_chars, ih]

end Config
end ChatTelemetry
