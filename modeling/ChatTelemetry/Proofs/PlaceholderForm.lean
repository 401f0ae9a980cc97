import ChatTelemetry.Config.Placeholder
import ChatTelemetry.Proofs.Segments

/-!
This module shows that the placeholders found at the front of a text are just those that are written
there.
-/

namespace ChatTelemetry
namespace Config.Placeholder

/-! ### How a placeholder is written -/

def AreBlank (cs : List Char) : Prop :=
  ∀ c ∈ cs, Text.isBlank c = true

def IsKey (key : List Char) : Prop :=
  key ≠ [] ∧ ∀ c ∈ key, isKeyChar c = true

/-- The text for an unset variable, if there is one, from the bar on. -/
inductive IsFallback : Option (List Char) → List Char → Prop
  | none : IsFallback none []
  | some {text before after : List Char} (hbefore : AreBlank before) (htext : '"' ∉ text)
    (hafter : AreBlank after)
    : IsFallback (some text)
        ('|' :: (before ++ "default(\"".toList ++ text ++ ['"', ')'] ++ after))

inductive IsWritten : Placeholder → List Char → Prop
  | intro {key before after bar : List Char} {fallback : Option (List Char)}
    (hbefore : AreBlank before) (hkey : IsKey key) (hafter : AreBlank after)
    (hbar : IsFallback fallback bar)
    : IsWritten ⟨key, fallback⟩
        (['\x7b', '\x7b'] ++ before ++ key ++ after ++ bar ++ ['\x7d', '\x7d'])

theorem IsWritten.ne_nil {p : Placeholder} {written : List Char}
    (h : IsWritten p written)
    : written ≠ [] := by
  obtain ⟨-, -, -, -⟩ := h
  simp

/-! ### Blanks and keys -/

theorem isBlank_of_isKeyChar {c : Char} (h : isKeyChar c = true) : Text.isBlank c = false := by
  have hcode : c.toNat = 0x2e ∨ 0x30 ≤ c.toNat ∧ c.toNat ≤ 0x7a := by
    have hbetween : ∀ {a b : Char}, a ≤ c ∧ c ≤ b → a.toNat ≤ c.toNat ∧ c.toNat ≤ b.toNat := id
    simp only [isKeyChar, Bool.or_eq_true, Bool.and_eq_true, decide_eq_true_eq, beq_iff_eq] at h
    rcases h with (((h | h) | h) | rfl) | rfl
    . have := hbetween h
      have : 'a'.toNat = 0x61 ∧ 'z'.toNat = 0x7a := by decide
      omega
    . have := hbetween h
      have : 'A'.toNat = 0x41 ∧ 'Z'.toNat = 0x5a := by decide
      omega
    . have := hbetween h
      have : '0'.toNat = 0x30 ∧ '9'.toNat = 0x39 := by decide
      omega
    . decide
    . decide
  simp only [Text.isBlank, Bool.or_eq_false_iff, Bool.and_eq_false_iff, decide_eq_false_iff_not,
    beq_eq_false_iff_ne]
  omega

theorem skipBlanks_append {before : List Char} (h : AreBlank before) (cs : List Char)
    : skipBlanks (before ++ cs) = skipBlanks cs :=
  List.dropWhile_append_of_pos h

theorem skipBlanks_cons {c : Char} (h : Text.isBlank c = false) (cs : List Char)
    : skipBlanks (c :: cs) = c :: cs :=
  List.dropWhile_cons_of_neg (by simp [h])

theorem exists_skipBlanks (cs : List Char)
    : ∃ before, AreBlank before ∧ cs = before ++ skipBlanks cs := by
  refine ⟨cs.takeWhile Text.isBlank, fun c hc => ?_, ?_⟩
  . exact List.all_eq_true.mp cs.all_takeWhile c hc
  . exact (List.takeWhile_append_dropWhile).symm

/-- What comes after a key: blanks, the bar of a fallback or the closing braces. -/
theorem takeWhile_isKeyChar_eq_nil {after bar : List Char} {fallback : Option (List Char)}
    (hafter : AreBlank after) (hbar : IsFallback fallback bar) (rest : List Char)
    : (after ++ (bar ++ '\x7d' :: rest)).takeWhile isKeyChar = [] := by
  cases after with
  | nil =>
    cases hbar with
    | none => rfl
    | some hbefore htext hafter' => rfl
  | cons c after =>
    apply List.takeWhile_cons_of_neg
    intro hkey
    have hblank := hafter c List.mem_cons_self
    simp [isBlank_of_isKeyChar hkey] at hblank

/-! ### Finding a placeholder -/

theorem fallback?_append {text before after : List Char} (hbefore : AreBlank before)
    (htext : '"' ∉ text) (hafter : AreBlank after) (rest : List Char)
    : fallback? (before ++ "default(\"".toList ++ text ++ ['"', ')'] ++ after ++ '\x7d' :: rest)
        =
      some (text, '\x7d' :: rest) := by
  let left := ')' :: (after ++ '\x7d' :: rest)
  have hcs : before ++ "default(\"".toList ++ text ++ ['"', ')'] ++ after ++ '\x7d' :: rest
      = before ++ ("default(\"".toList ++ (text ++ '"' :: left)) := by
    simp [left]
  have hskip : skipBlanks ("default(\"".toList ++ (text ++ '"' :: left))
      = "default(\"".toList ++ (text ++ '"' :: left) :=
    skipBlanks_cons (by decide : Text.isBlank 'd' = false) _
  have hcut : Text.cutAt? '"' (text ++ '"' :: left) = some (text, left) :=
    Text.cutAt?_eq_some_iff.mpr ⟨htext, rfl⟩
  have hclose : Text.dropStart? [')'] left = some (after ++ '\x7d' :: rest) :=
    Text.dropStart?_eq_some_iff.mpr rfl
  unfold fallback?
  rw [hcs, skipBlanks_append hbefore, hskip, Text.dropStart?_eq_some_iff.mpr rfl]
  simp only [Option.bind_eq_bind, Option.bind_some, hcut, hclose]
  rw [skipBlanks_append hafter, skipBlanks_cons (by decide)]
  rfl

theorem fallback_of_fallback? {text cs rest : List Char} (h : fallback? cs = some (text, rest))
    : ∃ bar, IsFallback (some text) ('|' :: bar) ∧ cs = bar ++ rest := by
  unfold fallback? at h
  simp only [Option.bind_eq_bind, Option.bind_eq_some_iff, Option.pure_def, Prod.exists,
    Text.dropStart?_eq_some_iff, Text.cutAt?_eq_some_iff, Option.some.injEq, Prod.mk.injEq] at h
  obtain ⟨_, hdefault, text', _, ⟨htext, rfl⟩, left, rfl, rfl, rfl⟩ := h
  obtain ⟨before, hbefore, hcs⟩ := exists_skipBlanks cs
  obtain ⟨after, hafter, hleft⟩ := exists_skipBlanks left
  refine ⟨_, .some hbefore htext hafter, ?_⟩
  rw [hcs, hdefault]
  conv_lhs => rw [hleft]
  simp

theorem atFront?_of_isWritten {p : Placeholder} {text : List Char} (h : IsWritten p text)
    (rest : List Char)
    : atFront? (text ++ rest) = some (p, rest) := by
  obtain @⟨key, before, after, bar, fallback, hbefore, ⟨hne, hchars⟩, hafter, hbar⟩ := h
  let behind := after ++ (bar ++ '\x7d' :: '\x7d' :: rest)
  have hcs : ['\x7b', '\x7b'] ++ before ++ key ++ after ++ bar ++ ['\x7d', '\x7d'] ++ rest
      = ['\x7b', '\x7b'] ++ (before ++ (key ++ behind)) := by
    simp [behind]
  have hskip : skipBlanks (key ++ behind) = key ++ behind := by
    cases key with
    | nil => contradiction
    | cons c key => exact skipBlanks_cons (isBlank_of_isKeyChar (hchars c List.mem_cons_self)) _
  have hbehind : behind.takeWhile isKeyChar = [] := takeWhile_isKeyChar_eq_nil hafter hbar _
  have htake : (key ++ behind).takeWhile isKeyChar = key := by
    rw [List.takeWhile_append_of_pos hchars, hbehind, List.append_nil]
  have hdrop : (key ++ behind).dropWhile isKeyChar = behind := by
    rw [List.dropWhile_append_of_pos hchars]
    have := List.takeWhile_append_dropWhile (p := isKeyChar) (l := behind)
    rwa [hbehind] at this
  unfold atFront?
  rw [hcs, Text.dropStart?_eq_some_iff.mpr rfl]
  simp only [Option.bind_eq_bind, Option.bind_some]
  rw [skipBlanks_append hbefore, hskip, htake, hdrop, if_neg (by simpa using hne)]
  rw [skipBlanks_append hafter]
  cases hbar with
  | none =>
    rw [List.nil_append, skipBlanks_cons (by decide)]
    rfl
  | some hbefore htext hafter' =>
    have hfallback := fallback?_append hbefore htext hafter' ('\x7d' :: rest)
    rw [List.cons_append, skipBlanks_cons (by decide)]
    simp only [hfallback]
    rfl

theorem isWritten_of_atFront? {p : Placeholder} {cs rest : List Char}
    (h : atFront? cs = some (p, rest))
    : ∃ text, IsWritten p text ∧ cs = text ++ rest := by
  unfold atFront? at h
  simp only [Option.bind_eq_bind, Option.bind_eq_some_iff, Text.dropStart?_eq_some_iff] at h
  obtain ⟨opened, rfl, h⟩ := h
  obtain ⟨before, hbefore, hopened⟩ := exists_skipBlanks opened
  generalize skipBlanks opened = keyed at hopened h
  have hchars := fun c => List.all_eq_true.mp (keyed.all_takeWhile (p := isKeyChar)) c
  have hkeyed := List.takeWhile_append_dropWhile (p := isKeyChar) (l := keyed)
  generalize keyed.takeWhile isKeyChar = key, keyed.dropWhile isKeyChar = behind
    at hchars hkeyed h
  obtain ⟨after, hafter, hbehind⟩ := exists_skipBlanks behind
  generalize skipBlanks behind = barred at hbehind h
  subst hopened hkeyed hbehind
  split at h
  next => contradiction
  next hempty =>
    have hkey : IsKey key := .intro (by simpa using hempty) hchars
    split at h
    next bar =>
      simp only [Option.bind_eq_some_iff, Option.map_eq_some_iff, Prod.exists,
        Text.dropStart?_eq_some_iff, Option.pure_def, Option.some.injEq, Prod.mk.injEq] at h
      obtain ⟨_, _, ⟨text, left, hfallback, rfl, rfl⟩, _, rfl, rfl, rfl⟩ := h
      obtain ⟨bar, hform, rfl⟩ := fallback_of_fallback? hfallback
      exact ⟨_, .intro hbefore hkey hafter hform, by simp⟩
    next =>
      simp only [Option.bind_some, Option.bind_eq_some_iff, Text.dropStart?_eq_some_iff,
        Option.pure_def, Option.some.injEq, Prod.mk.injEq] at h
      obtain ⟨_, rfl, rfl, rfl⟩ := h
      exact ⟨_, .intro hbefore hkey hafter .none, by simp⟩

theorem atFront?_eq_some_iff {p : Placeholder} {cs rest : List Char}
    : atFront? cs = some (p, rest) ↔ ∃ text, IsWritten p text ∧ cs = text ++ rest := by
  constructor
  . exact isWritten_of_atFront?
  . rintro ⟨text, h, rfl⟩
    exact atFront?_of_isWritten h rest

end Config.Placeholder
end ChatTelemetry
