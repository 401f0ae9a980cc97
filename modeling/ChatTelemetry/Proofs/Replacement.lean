import ChatTelemetry.Proofs.Expansion
import ChatTelemetry.Proofs.Pieces

/-!
This module shows what the replacement of placeholders makes of a text: what takes the place of each
of its pieces, and that the first placeholder that nothing can take the place of decides how the
replacement fails.
-/

namespace ChatTelemetry
namespace Config

open Placeholder (atFront? atFront?_eq_some_iff atFront?_of_isWritten)

/-! ### What takes the place of a piece -/

def IsVariable (name : List Char) : Prop :=
  name ≠ [] ∧ '.' ∉ name

def keyOf (name : List Char) : List Char :=
  "env.".toList ++ name

inductive Becomes (env : Environment) : Piece → List Char → Prop
  | copied (c : Char) : Becomes env (.copied c) [c]
  | ofVariable {name written : List Char} {fallback : Option (List Char)} {value : String}
    (hname : IsVariable name) (hset : env.get? (.ofList name) = some value)
    : Becomes env (.placeholder ⟨keyOf name, fallback⟩ written) value.toList
  | ofFallback {name text written : List Char}
    (hname : IsVariable name) (hunset : env.get? (.ofList name) = none)
    : Becomes env (.placeholder ⟨keyOf name, some text⟩ written) text

/-- Nothing can take the place of a piece. -/
inductive Fails (env : Environment) : Piece → ExpandError → Prop
  | unsupported {key written : List Char} {fallback : Option (List Char)}
    (hkey : ∀ name, IsVariable name → key ≠ keyOf name)
    : Fails env (.placeholder ⟨key, fallback⟩ written) (.unsupported key)
  | unset {name written : List Char}
    (hname : IsVariable name) (hunset : env.get? (.ofList name) = none)
    : Fails env (.placeholder ⟨keyOf name, none⟩ written) (.unset name)

def Piece.value (env : Environment) : Piece → Except ExpandError (List Char)
  | copied c => .ok [c]
  | placeholder p _ => p.resolve env

theorem Placeholder.variableName?_eq_some_iff {key name : List Char}
    : variableName? key = some name ↔ IsVariable name ∧ key = keyOf name := by
  simp only [variableName?, Option.bind_eq_bind, Option.bind_eq_some_iff,
    Text.dropStart?_eq_some_iff, IsVariable, keyOf]
  constructor
  . rintro ⟨name', rfl, h⟩
    split at h
    next => contradiction
    next hname =>
      obtain rfl : name' = name := by simpa using h
      simpa using hname
  . rintro ⟨hname, rfl⟩
    exact ⟨name, rfl, by simp [hname]⟩

variable {env : Environment} {piece : Piece}

theorem Becomes.value_eq {text : List Char} (h : Becomes env piece text)
    : piece.value env = .ok text := by
  cases h with
  | copied c => rfl
  | ofVariable hname hset =>
    have hkey := Placeholder.variableName?_eq_some_iff.mpr ⟨hname, rfl⟩
    simp only [Piece.value, Placeholder.resolve, hkey, hset]
  | ofFallback hname hunset =>
    have hkey := Placeholder.variableName?_eq_some_iff.mpr ⟨hname, rfl⟩
    simp only [Piece.value, Placeholder.resolve, hkey, hunset]

theorem Fails.value_eq {e : ExpandError} (h : Fails env piece e) : piece.value env = .error e := by
  cases h with
  | @unsupported key written fallback hkey =>
    have hnone : Placeholder.variableName? key = none := by
      rw [Option.eq_none_iff_forall_ne_some]
      intro name hname
      obtain ⟨hvariable, hkeyOf⟩ := Placeholder.variableName?_eq_some_iff.mp hname
      exact hkey name hvariable hkeyOf
    simp only [Piece.value, Placeholder.resolve, hnone]
  | unset hname hunset =>
    have hkey := Placeholder.variableName?_eq_some_iff.mpr ⟨hname, rfl⟩
    simp only [Piece.value, Placeholder.resolve, hkey, hunset]

theorem becomes_or_fails (env : Environment) (piece : Piece)
    : (∃ text, Becomes env piece text) ∨ ∃ e, Fails env piece e := by
  cases piece with
  | copied c => exact .inl ⟨_, .copied c⟩
  | placeholder p written =>
    obtain ⟨key, fallback⟩ := p
    by_cases hkey : ∃ name, IsVariable name ∧ key = keyOf name
    . obtain ⟨name, hname, rfl⟩ := hkey
      cases hvalue : env.get? (.ofList name) with
      | some value => exact .inl ⟨_, .ofVariable hname hvalue⟩
      | none =>
        cases fallback with
        | some text => exact .inl ⟨_, .ofFallback hname hvalue⟩
        | none => exact .inr ⟨_, .unset hname hvalue⟩
    . exact .inr ⟨_, .unsupported fun name hname heq => hkey ⟨name, hname, heq⟩⟩

theorem becomes_iff {text : List Char} : Becomes env piece text ↔ piece.value env = .ok text := by
  constructor
  . exact Becomes.value_eq
  . intro h
    rcases becomes_or_fails env piece with ⟨text', hbecomes⟩ | ⟨e, hfails⟩
    . obtain rfl : text' = text := by simpa [hbecomes.value_eq] using h
      exact hbecomes
    . simp [hfails.value_eq] at h

theorem fails_iff {e : ExpandError} : Fails env piece e ↔ piece.value env = .error e := by
  constructor
  . exact Fails.value_eq
  . intro h
    rcases becomes_or_fails env piece with ⟨text, hbecomes⟩ | ⟨e', hfails⟩
    . simp [hbecomes.value_eq] at h
    . obtain rfl : e' = e := by simpa [hfails.value_eq] using h
      exact hfails

/-! ### A text is its pieces, each replaced -/

theorem mapM_copied (env : Environment) (cs : List Char)
    : (cs.map Piece.copied).mapM (Piece.value env) = .ok (cs.map fun c => [c]) := by
  rw [Except.mapM_eq_ok_iff]
  induction cs with
  | nil => exact .nil
  | cons c cs ih => exact .cons rfl ih

theorem mapM_value_cons (env : Environment) (piece : Piece) (pieces : List Piece)
    : List.flatten <$> (piece :: pieces).mapM (Piece.value env)
        =
      (piece.value env).bind fun text =>
        (List.flatten <$> pieces.mapM (Piece.value env)).map (text ++ ·) := by
  rw [List.mapM_cons]
  cases piece.value env with
  | error e => rfl
  | ok text => cases pieces.mapM (Piece.value env) <;> rfl

theorem InLine.expandLine_eq {line : List Char} {pieces : List Piece} (h : InLine line pieces)
    : expandLine env 0 line = List.flatten <$> pieces.mapM (Piece.value env) := by
  induction h with
  | nil => rfl
  | @placeholder p written rest pieces hwritten hrest ih =>
    rw [expandLine_placeholder env hwritten.ne_nil (atFront?_of_isWritten hwritten rest)]
    rw [mapM_value_cons, ih]
    rfl
  | @copied c cs pieces hnone hcs ih =>
    have hfront : atFront? (c :: cs) = none := by
      rw [Option.eq_none_iff_forall_ne_some]
      rintro ⟨p, rest⟩ hfound
      obtain ⟨written, hwritten, heq⟩ := atFront?_eq_some_iff.mp hfound
      exact hnone ⟨p, written, rest, hwritten, heq⟩
    rw [expandLine_cons, hfront, mapM_value_cons]
    exact congrArg (Except.map (c :: ·)) ih

theorem OfLine.expanded_eq {line : List Char} {pieces : List Piece} (h : OfLine line pieces)
    : (if isComment line then .ok line else expandLine env 0 line)
        =
      List.flatten <$> pieces.mapM (Piece.value env) := by
  cases h with
  | comment hblank hline =>
    rw [if_pos (isComment_iff.mpr ⟨_, _, hblank, hline⟩), mapM_copied]
    exact congrArg Except.ok (List.flatMap_singleton' line).symm
  | text hnone hpieces =>
    rw [if_neg (fun h => hnone (isComment_iff.mp h)), hpieces.expandLine_eq]

theorem OfText.expand_eq {cs : List Char} {pieces : List Piece} (h : OfText cs pieces)
    : expand env cs = List.flatten <$> pieces.mapM (Piece.value env) := by
  induction h with
  | nil => rfl
  | @last line pieces hne hbreak hline =>
    unfold expand
    rw [lines_of_not_mem hne hbreak, List.mapM_cons, hline.expanded_eq]
    cases pieces.mapM (Piece.value env) with
    | error e => rfl
    | ok texts => exact congrArg Except.ok (List.append_nil _)
  | @more line rest pieces others hbreak hline hrest ih =>
    rw [expand_append_newline env hbreak, hline.expanded_eq, ih, List.mapM_append]
    cases pieces.mapM (Piece.value env) with
    | error e => rfl
    | ok texts =>
      cases others.mapM (Piece.value env) with
      | error e => rfl
      | ok texts' => exact congrArg Except.ok List.flatten_append.symm

/-! ### What becomes of a text -/

/-- Everything is replaced, or the first piece that nothing can take the place of decides. -/
inductive Yields (env : Environment) : List Piece → Except ExpandError (List Char) → Prop
  | replaced {pieces : List Piece} {texts : List (List Char)}
    (h : List.Forall₂ (Becomes env) pieces texts)
    : Yields env pieces (.ok texts.flatten)
  | failed {before after : List Piece} {piece : Piece} {e : ExpandError}
    (hbefore : ∀ p ∈ before, ∃ text, Becomes env p text) (hpiece : Fails env piece e)
    : Yields env (before ++ piece :: after) (.error e)

theorem yields_iff {pieces : List Piece} {outcome : Except ExpandError (List Char)}
    : Yields env pieces outcome ↔ List.flatten <$> pieces.mapM (Piece.value env) = outcome := by
  constructor
  . intro h
    cases h with
    | replaced h =>
      have htexts := Except.mapM_eq_ok_iff.mpr (h.imp fun _ _ => Becomes.value_eq)
      rw [htexts]
      rfl
    | @failed before after piece e hbefore hpiece =>
      have hvalues : ∀ p ∈ before, ∃ text, p.value env = .ok text :=
        fun p hp => (hbefore p hp).imp fun _ => Becomes.value_eq
      rw [Except.mapM_eq_error_iff.mpr ⟨before, piece, after, rfl, hvalues, hpiece.value_eq⟩]
      rfl
  . rintro rfl
    cases h : pieces.mapM (Piece.value env) with
    | ok texts =>
      exact .replaced ((Except.mapM_eq_ok_iff.mp h).imp fun _ _ => becomes_iff.mpr)
    | error e =>
      obtain ⟨before, piece, after, rfl, hbefore, hpiece⟩ := Except.mapM_eq_error_iff.mp h
      apply Yields.failed
      . exact fun p hp => (hbefore p hp).imp fun _ => becomes_iff.mpr
      . exact fails_iff.mpr hpiece

theorem exists_yields_error_iff {pieces : List Piece}
    : (∃ e, Yields env pieces (.error e)) ↔ ∃ piece ∈ pieces, ∃ e, Fails env piece e := by
  constructor
  . rintro ⟨e, h⟩
    cases h with
    | failed hbefore hpiece => exact ⟨_, by simp, e, hpiece⟩
  . rintro ⟨piece, hmem, e, hpiece⟩
    cases h : pieces.mapM (Piece.value env) with
    | ok texts =>
      have hok := (Except.mapM_eq_ok_iff.mp h).imp fun p text hp =>
        And.intro (Exists.intro text hp) hp
      obtain ⟨text, htext⟩ := ((List.forall₂_and_left _ _).mp hok).1 piece hmem
      rw [hpiece.value_eq] at htext
      contradiction
    | error e => exact ⟨e, yields_iff.mpr (by rw [h]; rfl)⟩

/--
What is written in a text alone says what is copied and what is replaced, and a text may be cut
after a line break and its parts be dealt with one after the other.
-/
theorem expansion_replaces_what_is_written (env : Environment)
    : (∀ cs, ∃ pieces, (∀ others, OfText cs others ↔ others = pieces) ∧
        pieces.flatMap Piece.chars = cs ∧
        (∀ outcome, expand env cs = outcome ↔ Yields env pieces outcome) ∧
        ((∃ e, expand env cs = .error e) ↔ ∃ piece ∈ pieces, ∃ e, Fails env piece e)) ∧
      ∀ front rest, expand env (front ++ '\n' :: rest)
          =
        (do
          let before ← expand env (front ++ ['\n'])
          let after ← expand env rest
          return before ++ after) := by
  constructor
  . intro cs
    obtain ⟨pieces, hpieces⟩ := exists_ofText cs
    have houtcome : ∀ outcome, expand env cs = outcome ↔ Yields env pieces outcome := by
      intro outcome
      rw [hpieces.expand_eq, yields_iff]
    refine ⟨pieces, fun others => ⟨hpieces.unique, ?_⟩, hpieces.flatMap_chars, houtcome, ?_⟩
    . rintro rfl
      exact hpieces
    . simp only [houtcome, exists_yields_error_iff]
  . exact expand_append_break env

end Config
end ChatTelemetry
