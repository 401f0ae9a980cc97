import ChatTelemetry.Proofs.Decoding

/-!
This module contains the theory of objects that stand within a payload. Whatever surrounds it, an
object matters to the reading of the payload only through what it is read as itself.
-/

namespace ChatTelemetry.Payload

open Json (Value)

/-! ### Places in a payload -/

namespace Fields

/-- The layout of the field that goes by a key. -/
def layoutOf? : Fields σ β → String → Option ((α : Type) × Shape α)
  | nil, _ => none
  | cons name secondName shape _ others, key =>
    if goesBy name secondName key then some ⟨_, shape⟩ else others.layoutOf? key

/-- The layout of the field at a position. -/
def layoutAt? : Fields σ β → Nat → Option ((α : Type) × Shape α)
  | nil, _ => none
  | cons _ _ shape _ _, 0 => some ⟨_, shape⟩
  | cons _ _ _ _ others, n + 1 => others.layoutAt? n

end Fields

/--
A place in trees that are read by a layout, where what stands is read by the layout `target`; `fill`
makes the whole tree of what stands there.
-/
inductive Place (target : Shape β) : {α : Type} → Shape α → (fill : Value → Value) → Prop
  | here : Place target target id
  | optional {inner : Shape α} {fill : Value → Value} (h : Place target inner fill)
    : Place target (.optional inner) fill
  | item {item : Shape α} {fill : Value → Value} (before after : List Value)
    (h : Place target item fill)
    : Place target (.list item) fun v => .array (before ++ fill v :: after)
  | field {name key : String} {fields : Fields σ γ} {make : γ → α} {shape : Shape δ}
    {fill : Value → Value} (before after : List (String × Value))
    (hkey : fields.layoutOf? key = some ⟨δ, shape⟩) (h : Place target shape fill)
    : Place target (.record name fields make) fun v => .object (before ++ (key, fill v) :: after)
  | position {name : String} {fields : Fields σ γ} {make : γ → α} {shape : Shape δ}
    {fill : Value → Value} (before after : List Value)
    (hposition : fields.layoutAt? before.length = some ⟨δ, shape⟩) (h : Place target shape fill)
    : Place target (.record name fields make) fun v => .array (before ++ fill v :: after)
  | second {name : String} {second : Shape γ} {ofFirst : String → α} {ofSecond : γ → α}
    {fill : Value → Value} (h : Place target second fill)
    : Place target (.either name .text second ofFirst ofSecond) fill

/-- Whether a tree is an array or an object. -/
def isNested : Value → Bool
  | .array _ | .object _ => true
  | _ => false

theorem Place.isNested {target : Shape β} {shape : Shape α} {fill : Value → Value}
    (h : Place target shape fill) (members : List (String × Value))
    : isNested (fill (.object members)) = true := by
  induction h with
  | here => rfl
  | optional h ih => exact ih
  | item before after h ih => rfl
  | field before after hkey h ih => rfl
  | position before after hposition h ih => rfl
  | second h ih => exact ih

theorem optional_ofValue_of_isNested {inner : Shape α} {v : Value} (h : isNested v = true)
    : (Shape.optional inner).ofValue v = some <$> inner.ofValue v := by
  cases v with
  | array items => rfl
  | object members => rfl
  | _ => contradiction

theorem either_ofValue_of_isNested {name : String} {second : Shape β} {ofFirst : String → α}
    {ofSecond : β → α} {v : Value} (h : isNested v = true)
    : SameOutcome ((Shape.either name .text second ofFirst ofSecond).ofValue v)
        (ofSecond <$> second.ofValue v) := by
  have htext : ∃ mismatch, Shape.text.ofValue v = .error mismatch := by
    cases v with
    | array items => exact ⟨_, rfl⟩
    | object members => exact ⟨_, rfl⟩
    | _ => contradiction
  obtain ⟨mismatch, htext⟩ := htext
  rw [Shape.ofValue, htext]
  cases second.ofValue v with
  | ok b => exact .ok _
  | error mismatch => exact .error _ _

/-! ### Reading a whole after a part of it -/

/-- The whole comes to what the part comes to and then something that needs no more of it. -/
def Continues (whole : ι → Except ε α) (part : ι → Except ε β) : Prop :=
  ∃ next : β → Except ε α, ∀ i, SameOutcome (whole i) (part i >>= next)

namespace Continues

variable {whole : ι → Except ε α} {part : ι → Except ε β}

theorem refl (part : ι → Except ε β) : Continues part part := by
  refine ⟨pure, fun i => ?_⟩
  rw [bind_pure]
  exact .refl _

theorem bind (h : Continues whole part) (f : α → Except ε γ)
    : Continues (fun i => whole i >>= f) part := by
  obtain ⟨next, hnext⟩ := h
  refine ⟨fun b => next b >>= f, fun i => ?_⟩
  rw [← bind_assoc]
  exact (hnext i).bind fun a => .refl _

theorem map (h : Continues whole part) (f : α → γ) : Continues (fun i => f <$> whole i) part := by
  simp only [map_eq_pure_bind]
  exact h.bind _

theorem congr {whole' : ι → Except ε α} (h : Continues whole part)
    (hwhole : ∀ i, SameOutcome (whole' i) (whole i))
    : Continues whole' part := by
  obtain ⟨next, hnext⟩ := h
  exact ⟨next, fun i => (hwhole i).trans (hnext i)⟩

theorem error (e : ε) (part : ι → Except ε β)
    : Continues (fun _ => (.error e : Except ε α)) part := by
  refine ⟨fun _ => .error e, fun i => ?_⟩
  cases part i with
  | ok b => exact .error _ _
  | error e' => exact .error _ _

theorem comp (h : Continues whole part) (f : κ → ι)
    : Continues (fun k => whole (f k)) (fun k => part (f k)) := by
  obtain ⟨next, hnext⟩ := h
  exact ⟨next, fun k => hnext (f k)⟩

theorem trans {inner : ι → Except ε γ} (h : Continues whole part) (hpart : Continues part inner)
    : Continues whole inner := by
  obtain ⟨next, hnext⟩ := h
  exact (hpart.bind next).congr hnext

/-- What comes before may fail, but does not depend on the part. -/
theorem after {before : Except ε γ} {whole : γ → ι → Except ε α}
    (h : ∀ c, Continues (whole c) part)
    : Continues (fun i => before >>= fun c => whole c i) part := by
  cases before with
  | ok c => exact h c
  | error e => exact error e part

theorem sameOutcome (h : Continues whole part) {i j : ι} (hpart : SameOutcome (part i) (part j))
    : SameOutcome (whole i) (whole j) := by
  obtain ⟨next, hnext⟩ := h
  exact ((hnext i).trans (hpart.bind fun b => .refl _)).trans (hnext j).symm

theorem sameOutcome_error (h : Continues whole part) {i : ι} {e : ε}
    (hpart : SameOutcome (part i) (.error e : Except ε β))
    : SameOutcome (whole i) (.error e : Except ε α) := by
  obtain ⟨next, hnext⟩ := h
  exact (hnext i).trans (hpart.bind (g := next) fun b => .refl _)

end Continues

theorem Fields.assign_continues : (fields : Fields σ β) → (key : String) → {shape : Shape δ} →
    fields.layoutOf? key = some ⟨δ, shape⟩ → (slots : σ) →
      Continues (fun v => fields.assign key v slots) shape.ofValue
  | .nil, _, _, hkey, _ => by contradiction
  | .cons name secondName shape _ others, key, _, hkey, (slot, slots) => by
    simp only [Fields.assign]
    rw [Fields.layoutOf?] at hkey
    by_cases hgoes : goesBy name secondName key
    . rw [if_pos hgoes] at hkey
      cases hkey
      simp only [if_pos hgoes]
      cases slot with
      | some a => exact .error _ _
      | none => exact (Continues.refl _).bind _
    . rw [if_neg hgoes] at hkey
      simp only [if_neg hgoes]
      exact (others.assign_continues key hkey slots).bind _

theorem Fields.ofItems_continues : (fields : Fields σ β) → (before after : List Value) →
    (length : Nat) → {shape : Shape δ} → fields.layoutAt? before.length = some ⟨δ, shape⟩ →
      Continues (fun v => withoutSurplus length (fields.ofItems (before ++ v :: after)))
        shape.ofValue
  | .nil, _, _, _, _, hposition => by contradiction
  | .cons _ _ shape _ others, [], after, length, _, hposition => by
    cases hposition
    simp only [List.nil_append, withoutSurplus_ofItems_cons]
    exact (Continues.refl _).bind _
  | .cons _ _ _ _ others, u :: before, after, length, _, hposition => by
    simp only [List.cons_append, withoutSurplus_ofItems_cons]
    apply Continues.after
    intro a
    exact (others.ofItems_continues before after length hposition).map _

theorem record_ofValue_array {name : String} {fields : Fields σ β} {make : β → α} (vs : List Value)
    : (Shape.record name fields make).ofValue (.array vs)
        =
      make <$> withoutSurplus vs.length (fields.ofItems vs) := by
  rw [map_withoutSurplus, Shape.ofValue]

/-- Where an object stands in a payload, the payload is read by reading the object first. -/
theorem Place.continues {target : Shape β} {shape : Shape α} {fill : Value → Value}
    (h : Place target shape fill)
    : Continues (fun members => shape.ofValue (fill (.object members)))
        (fun members => target.ofValue (.object members)) := by
  induction h with
  | here => exact .refl _
  | optional h ih =>
    simp only [optional_ofValue_of_isNested (h.isNested _)]
    exact ih.map some
  | item before after h ih =>
    simp only [Shape.ofValue, List.mapM_append, List.mapM_cons]
    apply Continues.after
    intro done
    exact (ih.bind _).bind _
  | @field _ _ _ _ _ key fields make shape fill before after hkey h ih =>
    simp only [Shape.ofValue, List.foldlM_append, List.foldlM_cons, bind_assoc]
    apply Continues.after
    intro slots
    have hassign := (fields.assign_continues key hkey slots).comp fun members =>
      fill (.object members)
    exact (hassign.trans ih).bind _
  | @position _ _ _ _ _ fields make shape fill before after hposition h ih =>
    simp only [record_ofValue_array, List.length_append, List.length_cons]
    have hitems := (fields.ofItems_continues before after (before.length + (after.length + 1))
      hposition).comp fun members => fill (.object members)
    exact (hitems.trans ih).map make
  | second h ih =>
    apply (ih.map _).congr
    intro members
    exact either_ofValue_of_isNested (h.isNested members)

end ChatTelemetry.Payload
