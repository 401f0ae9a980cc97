import ChatTelemetry.Payload.Shape
import ChatTelemetry.Proofs.Outcome

/-!
This module contains the theory of the loops that read arrays and objects. Both are one loop, which
reads entry after entry. What such a loop has found in a text is said by `Entries`, and any other
loop over the same text can be followed along these entries.
-/

namespace ChatTelemetry.Json

open Payload (nextElement)

/--
How the next entry is found: there is none at a closing bracket, and elsewhere a text that begins
with it.
-/
abbrev Next : Type := (isFirst : Bool) → List Char → Except Fault (Option (List Char))

/-- The next field of an object, from behind the quote that opens its key. -/
def nextMember (isFirst : Bool) (cs : List Char) : Except Fault (Option (List Char)) :=
  match skipBlanks cs with
  | [] => .error .truncated
  | '}' :: _ => .ok none
  | c :: rest =>
    if isFirst then if c = '"' then .ok (some rest) else .error .malformed
    else if c = ',' then
      match skipBlanks rest with
      | [] => .error .truncated
      | '"' :: rest => .ok (some rest)
      | _ => .error .malformed
    else .error .malformed

/-! ### One loop -/

def loop (next : Next) (step : σ → List Char → Except Fault (σ × List Char))
    : (fuel : Nat) → (isFirst : Bool) → σ → List Char → Except Fault (σ × List Char)
  | 0, isFirst, state, cs => do
    match ← next isFirst cs with
    | none => .ok (state, (skipBlanks cs).tail)
    | some _ => .error .malformed
  | fuel + 1, isFirst, state, cs => do
    match ← next isFirst cs with
    | none => .ok (state, (skipBlanks cs).tail)
    | some begun =>
      let (state, left) ← step state begun
      loop next step fuel false state left

section Elements

variable (step : σ → List Char → Except Fault (σ × List Char))

theorem elements_go_succ (fuel : Nat) (state : σ) (cs : List Char)
    : elements.go step (fuel + 1) state cs
        =
      (step state cs).bind fun stepped => (nextElement false stepped.2).bind fun found =>
        match found with
        | none => .ok (stepped.1, (skipBlanks stepped.2).tail)
        | some begun => elements.go step fuel stepped.1 begun := by
  rw [elements.go]
  cases step state cs with
  | error fault => rfl
  | ok stepped =>
    simp only [bind, Except.bind, nextElement]
    cases skipBlanks stepped.2 with
    | nil => rfl
    | cons c rest =>
      by_cases hclose : c = ']'
      . subst hclose
        simp
      . by_cases hcomma : c = ','
        . subst hcomma
          simp only [Bool.false_eq_true, if_false, if_true]
          cases skipBlanks rest with
          | nil => rfl
          | cons d rest =>
            by_cases hclose' : d = ']'
            . subst hclose'
              simp
            . simp [hclose']
        . simp [hclose, hcomma]

theorem elements_go_eq (fuel : Nat) (state : σ) (cs : List Char)
    : elements.go step (fuel + 1) state cs
        =
      (step state cs).bind fun stepped =>
        loop nextElement step fuel false stepped.1 stepped.2 := by
  induction fuel generalizing state cs with
  | zero =>
    rw [elements_go_succ]
    rfl
  | succ fuel ih =>
    rw [elements_go_succ]
    simp only [ih]
    rfl

theorem elements_eq (state : σ) (cs : List Char)
    : elements step state cs = loop nextElement step (skipBlanks cs).length true state cs := by
  rw [elements]
  cases hcs : skipBlanks cs with
  | nil => simp [loop, nextElement, hcs, bind, Except.bind]
  | cons c rest =>
    rw [List.length_cons, loop, nextElement, hcs]
    by_cases hclose : c = ']'
    . subst hclose
      rfl
    . simp [hclose, elements_go_eq]
      rfl

end Elements

section Members

variable (key : List Char → Except Fault (κ × List Char))
  (step : σ → κ → List Char → Except Fault (σ × List Char))

/-- Reads the key of a field and then its value. -/
def keyed (state : σ) (cs : List Char) : Except Fault (σ × List Char) := do
  let (k, cs) ← key cs
  step state k cs

theorem members_go_succ (fuel : Nat) (state : σ) (cs : List Char)
    : members.go key step (fuel + 1) state cs
        =
      (keyed key step state cs).bind fun stepped => (nextMember false stepped.2).bind fun found =>
        match found with
        | none => .ok (stepped.1, (skipBlanks stepped.2).tail)
        | some begun => members.go key step fuel stepped.1 begun := by
  rw [members.go, keyed]
  cases key cs with
  | error fault => rfl
  | ok found =>
    simp only [bind, Except.bind]
    cases step state found.1 found.2 with
    | error fault => rfl
    | ok stepped =>
      simp only [nextMember]
      cases skipBlanks stepped.2 with
      | nil => rfl
      | cons c rest =>
        by_cases hclose : c = '}'
        . subst hclose
          simp
        . by_cases hcomma : c = ','
          . subst hcomma
            simp only [Bool.false_eq_true, if_false, if_true]
            cases skipBlanks rest with
            | nil => rfl
            | cons d rest =>
              by_cases hquote : d = '"'
              . subst hquote
                simp
              . simp [hquote]
          . simp [hclose, hcomma]

theorem members_go_eq (fuel : Nat) (state : σ) (cs : List Char)
    : members.go key step (fuel + 1) state cs
        =
      (keyed key step state cs).bind fun stepped =>
        loop nextMember (keyed key step) fuel false stepped.1 stepped.2 := by
  induction fuel generalizing state cs with
  | zero =>
    rw [members_go_succ]
    rfl
  | succ fuel ih =>
    rw [members_go_succ]
    simp only [ih]
    rfl

theorem members_eq (state : σ) (cs : List Char)
    : members key step state cs
        =
      loop nextMember (keyed key step) (skipBlanks cs).length true state cs := by
  rw [members]
  cases hcs : skipBlanks cs with
  | nil => simp [loop, nextMember, hcs, bind, Except.bind]
  | cons c rest =>
    rw [List.length_cons, loop, nextMember, hcs]
    by_cases hclose : c = '}'
    . subst hclose
      rfl
    . by_cases hquote : c = '"'
      . subst hquote
        simp [members_go_eq]
        rfl
      . simp [hclose, hquote]
        rfl

end Members

/-! ### What a loop has found -/

/--
The entries that a text has up to a closing bracket, and the text behind it. That a text begins with
an entry, and what is left then, is said by `entry`.
-/
inductive Entries (next : Next) (entry : List Char → α → List Char → Prop)
    : Bool → List Char → List α → List Char → Prop
  | closed {isFirst : Bool} {cs : List Char} (hnext : next isFirst cs = .ok none)
    : Entries next entry isFirst cs [] (skipBlanks cs).tail
  | more {isFirst : Bool} {cs begun left rest : List Char} {a : α} {as : List α}
    (hnext : next isFirst cs = .ok (some begun)) (ha : entry begun a left)
    (has : Entries next entry false left as rest)
    : Entries next entry isFirst cs (a :: as) rest

section

variable {next : Next} {entry : List Char → α → List Char → Prop}

theorem entries_of_loop {step : List α → List Char → Except Fault (List α × List Char)}
    (hstep : ∀ done cs done' left, step done cs = .ok (done', left) →
      ∃ a, done' = a :: done ∧ entry cs a left)
    {fuel : Nat} {isFirst : Bool} {done done' : List α} {cs rest : List Char}
    (h : loop next step fuel isFirst done cs = .ok (done', rest))
    : ∃ as, Entries next entry isFirst cs as rest ∧ done' = as.reverse ++ done := by
  induction fuel generalizing isFirst done cs with
  | zero =>
    rw [loop] at h
    obtain ⟨found, hnext, h⟩ := Except.bind_eq_ok_iff.mp h
    cases found with
    | none =>
      cases h
      exact ⟨[], .closed hnext, rfl⟩
    | some begun => cases h
  | succ fuel ih =>
    rw [loop] at h
    obtain ⟨found, hnext, h⟩ := Except.bind_eq_ok_iff.mp h
    cases found with
    | none =>
      cases h
      exact ⟨[], .closed hnext, rfl⟩
    | some begun =>
      obtain ⟨⟨stepped, left⟩, hstepped, h⟩ := Except.bind_eq_ok_iff.mp h
      obtain ⟨a, rfl, ha⟩ := hstep _ _ _ _ hstepped
      obtain ⟨as, has, rfl⟩ := ih h
      exact ⟨a :: as, .more hnext ha has, by simp⟩

theorem entries_of_elements {α : Type} {entry : List Char → α → List Char → Prop}
    {step : List α → List Char → Except Fault (List α × List Char)}
    (hstep : ∀ done cs done' left, step done cs = .ok (done', left) →
      ∃ a, done' = a :: done ∧ entry cs a left)
    {found : List α} {cs rest : List Char} (h : elements step [] cs = .ok (found, rest))
    : Entries nextElement entry true cs found.reverse rest := by
  rw [elements_eq] at h
  obtain ⟨as, has, rfl⟩ := entries_of_loop hstep h
  rwa [List.append_nil, List.reverse_reverse]

theorem entries_of_members {α κ : Type} {entry : List Char → α → List Char → Prop}
    {key : List Char → Except Fault (κ × List Char)}
    {step : List α → κ → List Char → Except Fault (List α × List Char)}
    (hstep : ∀ done cs done' left, keyed key step done cs = .ok (done', left) →
      ∃ a, done' = a :: done ∧ entry cs a left)
    {found : List α} {cs rest : List Char} (h : members key step [] cs = .ok (found, rest))
    : Entries nextMember entry true cs found.reverse rest := by
  rw [members_eq] at h
  obtain ⟨as, has, rfl⟩ := entries_of_loop hstep h
  rwa [List.append_nil, List.reverse_reverse]

theorem Entries.mono {entry' : List Char → α → List Char → Prop} {isFirst : Bool}
    {cs rest : List Char} {as : List α}
    (h : Entries next entry isFirst cs as rest)
    (hentry : ∀ {cs a left}, entry cs a left → entry' cs a left)
    : Entries next entry' isFirst cs as rest := by
  induction h with
  | closed hnext => exact .closed hnext
  | more hnext ha has ih => exact .more hnext (hentry ha) ih

theorem Entries.forall_mem {P : α → Prop} {isFirst : Bool} {cs rest : List Char} {as : List α}
    (h : Entries next entry isFirst cs as rest)
    (hentry : ∀ {cs a left}, entry cs a left → P a)
    : ∀ a ∈ as, P a := by
  induction h with
  | closed hnext => exact List.forall_mem_nil P
  | more hnext ha has ih => exact List.forall_mem_cons.mpr ⟨hentry ha, ih⟩

/-! ### Following the entries -/

theorem length_skipBlanks_le (cs : List Char) : (skipBlanks cs).length ≤ cs.length :=
  (List.dropWhile_suffix _).length_le

variable (hshorter : ∀ {isFirst cs begun}, next isFirst cs = .ok (some begun) →
    begun.length ≤ (skipBlanks cs).length)
  (hread : ∀ {cs a left}, entry cs a left → left.length < cs.length)

include hshorter hread

theorem Entries.length_le {isFirst : Bool} {cs rest : List Char} {as : List α}
    (h : Entries next entry isFirst cs as rest)
    : rest.length ≤ (skipBlanks cs).length := by
  induction h with
  | closed hnext => simp
  | @more _ _ begun left _ _ _ hnext ha has ih =>
    have := hshorter hnext
    have := hread ha
    have := length_skipBlanks_le left
    omega

/-- A loop whose steps read the entries, and nothing else, is a fold over them. -/
theorem Entries.loop_readsAs {step : σ → List Char → Except Fault (σ × List Char)}
    {f : σ → α → Except ε σ} {isFirst : Bool} {cs rest : List Char} {as : List α}
    (h : Entries next entry isFirst cs as rest) {fuel : Nat}
    (hfuel : (skipBlanks cs).length ≤ fuel)
    (hstep : ∀ {begun a left}, entry begun a left → begun.length ≤ fuel →
      ∀ state, ReadsAs (step state begun) (f state a) left)
    (state : σ)
    : ReadsAs (loop next step fuel isFirst state cs) (as.foldlM f state) rest := by
  induction h generalizing fuel state with
  | closed hnext =>
    cases fuel with
    | zero =>
      rw [loop, hnext]
      exact .ok _ _
    | succ fuel =>
      rw [loop, hnext]
      exact .ok _ _
  | @more _ cs begun left rest a as hnext ha has ih =>
    have hbegun := hshorter hnext
    have hleft := hread ha
    have hblanks := length_skipBlanks_le left
    obtain ⟨fuel, rfl⟩ : ∃ k, fuel = k + 1 := ⟨fuel - 1, by omega⟩
    rw [loop, hnext, List.foldlM_cons]
    refine (hstep ha (by omega) state).bind ?_
    exact ih (by omega) fun ha hbegun => hstep ha (by omega)

/-- A loop whose steps cannot fail on the entries. -/
theorem Entries.loop_eq_foldl {step : σ → List Char → Except Fault (σ × List Char)}
    {isFirst : Bool} {cs rest : List Char} {as : List α}
    (h : Entries next entry isFirst cs as rest) (f : σ → α → σ)
    (hstep : ∀ {begun a left}, entry begun a left → begun.length ≤ (skipBlanks cs).length →
      ∀ state, step state begun = .ok (f state a, left))
    (state : σ)
    : loop next step (skipBlanks cs).length isFirst state cs = .ok (as.foldl f state, rest) := by
  have hreads : ∀ {begun a left}, entry begun a left → begun.length ≤ (skipBlanks cs).length →
      ∀ state, ReadsAs (step state begun) (pure (f state a) : Except Fault σ) left := by
    intro begun a left ha hbegun state
    rw [hstep ha hbegun]
    exact .ok _ _
  have hfold := h.loop_readsAs hshorter hread (Nat.le_refl _) hreads state
  rw [List.foldlM_pure] at hfold
  exact hfold.of_ok

end

end ChatTelemetry.Json
