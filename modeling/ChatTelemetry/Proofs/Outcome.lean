import Mathlib.Data.List.Forall2

/-!
This module contains what is known of computations that may fail.
-/

namespace ChatTelemetry

namespace Except

variable {ε α β : Type}

theorem bind_eq_ok_iff {x : Except ε α} {f : α → Except ε β} {b : β}
    : x.bind f = .ok b ↔ ∃ a, x = .ok a ∧ f a = .ok b := by
  cases x with
  | error e => simp [Except.bind]
  | ok a => simp [Except.bind]

theorem toOption_eq_some_iff {x : Except ε α} {a : α} : x.toOption = some a ↔ x = .ok a := by
  cases x with
  | error e => simp [Except.toOption]
  | ok b => simp [Except.toOption]

theorem toOption_eq_none_iff {x : Except ε α} : x.toOption = none ↔ ¬∃ a, x = .ok a := by
  cases x with
  | error e => simp [Except.toOption]
  | ok b => simp [Except.toOption]

theorem mapM_eq_ok_iff {f : α → Except ε β} {as : List α} {bs : List β}
    : as.mapM f = .ok bs ↔ List.Forall₂ (fun a b => f a = .ok b) as bs := by
  induction as generalizing bs with
  | nil => cases bs <;> simp [pure, Except.pure]
  | cons a as ih =>
    rw [List.mapM_cons, List.forall₂_cons_left_iff]
    cases f a with
    | error e => simp [bind, Except.bind]
    | ok b =>
      cases hrest : as.mapM f with
      | error e => simp [bind, Except.bind, ← ih, hrest]
      | ok rest => simp [bind, Except.bind, pure, Except.pure, ← ih, hrest, eq_comm]

/-- The first failure decides. -/
theorem mapM_eq_error_iff {f : α → Except ε β} {as : List α} {e : ε}
    : as.mapM f = .error e
        ↔
      ∃ before a after, as = before ++ a :: after ∧ (∀ b ∈ before, ∃ c, f b = .ok c) ∧
        f a = .error e := by
  induction as with
  | nil => simp [pure, Except.pure]
  | cons a as ih =>
    rw [List.mapM_cons]
    constructor
    . intro h
      cases ha : f a with
      | error e' =>
        obtain rfl : e' = e := by simpa [ha, bind, Except.bind] using h
        exact ⟨[], a, as, rfl, by simp, ha⟩
      | ok b =>
        have hrest : as.mapM f = .error e := by
          cases hrest : as.mapM f with
          | error e' => simpa [ha, hrest, bind, Except.bind] using h
          | ok rest => simp [ha, hrest, bind, Except.bind, pure, Except.pure] at h
        obtain ⟨before, a', after, rfl, hbefore, ha'⟩ := ih.mp hrest
        refine ⟨a :: before, a', after, rfl, ?_, ha'⟩
        exact List.forall_mem_cons.mpr ⟨⟨b, ha⟩, hbefore⟩
    . rintro ⟨before, a', after, heq, hbefore, ha'⟩
      cases before with
      | nil =>
        obtain ⟨rfl, rfl⟩ := List.cons.inj heq
        simp [ha', bind, Except.bind]
      | cons b before =>
        obtain ⟨rfl, has⟩ := List.cons.inj heq
        obtain ⟨⟨c, hc⟩, hbefore⟩ := List.forall_mem_cons.mp hbefore
        have hrest := ih.mpr ⟨before, a', after, has, hbefore, ha'⟩
        simp [hc, hrest, bind, Except.bind]

end Except

/--
A reading comes to what another computation does, and leaves `rest`; where one of them fails, so
does the other.
-/
inductive ReadsAs : Except ε (α × γ) → Except ε' α → (rest : γ) → Prop
  | ok (a : α) (rest : γ) : ReadsAs (.ok (a, rest)) (.ok a) rest
  | error (e : ε) (e' : ε') (rest : γ) : ReadsAs (.error e) (.error e') rest

namespace ReadsAs

theorem bind {r : Except ε (α × γ)} {x : Except ε' α} {left rest : γ}
    {f : α × γ → Except ε (β × γ)} {g : α → Except ε' β}
    (h : ReadsAs r x left) (hnext : ∀ a, ReadsAs (f (a, left)) (g a) rest)
    : ReadsAs (r >>= f) (x >>= g) rest := by
  cases h with
  | ok a => exact hnext a
  | error e e' => exact .error e e' rest

theorem map (g : α → β) {r : Except ε (α × γ)} {x : Except ε' α} {rest : γ} (h : ReadsAs r x rest)
    : ReadsAs (r >>= fun read => pure (g read.1, read.2)) (g <$> x) rest := by
  cases h with
  | ok a => exact .ok _ _
  | error e e' => exact .error _ _ _

theorem of_ok {r : Except ε (α × γ)} {a : α} {rest : γ}
    (h : ReadsAs r (.ok a : Except ε' α) rest)
    : r = .ok (a, rest) := by
  cases h with
  | ok => rfl

end ReadsAs

/-- Both computations fail, or both come to the same. -/
inductive SameOutcome : Except ε α → Except ε' α → Prop
  | ok (a : α) : SameOutcome (.ok a) (.ok a)
  | error (e : ε) (e' : ε') : SameOutcome (.error e) (.error e')

namespace SameOutcome

theorem refl (x : Except ε α) : SameOutcome x x := by
  cases x with
  | ok a => exact .ok a
  | error e => exact .error e e

theorem symm {x : Except ε α} {y : Except ε' α} (h : SameOutcome x y) : SameOutcome y x := by
  cases h with
  | ok a => exact .ok a
  | error e e' => exact .error e' e

theorem trans {x : Except ε α} {y : Except ε' α} {z : Except ε'' α}
    (hxy : SameOutcome x y) (hyz : SameOutcome y z)
    : SameOutcome x z := by
  cases hxy with
  | ok a =>
    cases hyz with
    | ok _ => exact .ok a
  | error e e' =>
    cases hyz with
    | error _ e'' => exact .error e e''

theorem bind {x : Except ε α} {y : Except ε' α} {f : α → Except ε β} {g : α → Except ε' β}
    (h : SameOutcome x y) (hnext : ∀ a, SameOutcome (f a) (g a))
    : SameOutcome (x >>= f) (y >>= g) := by
  cases h with
  | ok a => exact hnext a
  | error e e' => exact .error e e'

theorem map (g : α → β) {x : Except ε α} {y : Except ε' α} (h : SameOutcome x y)
    : SameOutcome (g <$> x) (g <$> y) := by
  cases h with
  | ok a => exact .ok (g a)
  | error e e' => exact .error e e'

/-- What two computations come to does not depend on which is run first. -/
theorem swap (x : Except ε α) (y : Except ε β) (f : α → β → γ)
    : SameOutcome
        (do
          let a ← x
          let b ← y
          return f a b)
        (do
          let b ← y
          let a ← x
          return f a b) := by
  cases x with
  | ok a =>
    cases y with
    | ok b => exact .ok _
    | error e => exact .error _ _
  | error e =>
    cases y with
    | ok b => exact .error _ _
    | error e' => exact .error _ _

/-- A failure that comes after anything is a failure. -/
theorem bind_error (x : Except ε α) (y : Except ε' β) (e : ε) (e' : ε')
    : SameOutcome (x >>= fun _ => (.error e : Except ε γ)) (y >>= fun _ => .error e') := by
  cases x with
  | ok a =>
    cases y with
    | ok b => exact .error _ _
    | error e => exact .error _ _
  | error e =>
    cases y with
    | ok b => exact .error _ _
    | error e' => exact .error _ _

theorem eq_ok_iff {x : Except ε α} {y : Except ε' α} (h : SameOutcome x y) {a : α}
    : x = .ok a ↔ y = .ok a := by
  cases h with
  | ok b => simp
  | error e e' => simp

theorem mapM {as : List α} {f : α → Except ε β} {g : α → Except ε' β}
    (h : ∀ a ∈ as, SameOutcome (f a) (g a))
    : SameOutcome (as.mapM f) (as.mapM g) := by
  induction as with
  | nil => exact .ok []
  | cons a as ih =>
    rw [List.mapM_cons, List.mapM_cons]
    apply (h a List.mem_cons_self).bind
    intro b
    exact (ih fun a ha => h a (List.mem_cons_of_mem _ ha)).map (b :: ·)

theorem foldlM {as : List α} {f : σ → α → Except ε σ} {g : σ → α → Except ε' σ}
    (h : ∀ a ∈ as, ∀ state, SameOutcome (f state a) (g state a)) (state : σ)
    : SameOutcome (as.foldlM f state) (as.foldlM g state) := by
  induction as generalizing state with
  | nil => exact .ok state
  | cons a as ih =>
    rw [List.foldlM_cons, List.foldlM_cons]
    apply (h a List.mem_cons_self state).bind
    exact ih fun a ha => h a (List.mem_cons_of_mem _ ha)

/-- Steps of which any two may change places may be taken in any order. -/
theorem foldlM_perm {as bs : List α} (hperm : as.Perm bs) {f : σ → α → Except ε σ}
    (hcomm : ∀ state a b, SameOutcome (f state a >>= (f · b)) (f state b >>= (f · a))) (state : σ)
    : SameOutcome (as.foldlM f state) (bs.foldlM f state) := by
  induction hperm generalizing state with
  | nil => exact .ok state
  | cons a hperm ih =>
    rw [List.foldlM_cons, List.foldlM_cons]
    exact (refl (f state a)).bind ih
  | swap a b as =>
    simp only [List.foldlM_cons, ← bind_assoc]
    exact (hcomm state b a).bind fun state => refl _
  | trans h h' ih ih' => exact (ih state).trans (ih' state)

end SameOutcome
end ChatTelemetry
