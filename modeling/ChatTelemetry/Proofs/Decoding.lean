import ChatTelemetry.Payload.Google
import ChatTelemetry.Payload.OpenAi
import ChatTelemetry.Proofs.Canonical
import ChatTelemetry.Proofs.Layout

/-!
This module shows that for payloads it does not matter whether the text is read or the tree that
the text is. The tree has its fields in the order of their keys, while the text may have them in
any: as long as no key is repeated, a record comes out the same in every order.
-/

namespace ChatTelemetry

open Json (Value)

namespace Json.Value

/-! ### Trees without repeated keys -/

mutual

/-- Whether no object in the tree has two fields of the same key. -/
def hasDistinctKeys : Value → Bool
  | .array items => itemsHaveDistinctKeys items
  | .object fields => decide (fields.map Prod.fst).Nodup && fieldsHaveDistinctKeys fields
  | _ => true

def itemsHaveDistinctKeys : List Value → Bool
  | [] => true
  | v :: rest => hasDistinctKeys v && itemsHaveDistinctKeys rest

def fieldsHaveDistinctKeys : List (String × Value) → Bool
  | [] => true
  | (_, v) :: rest => hasDistinctKeys v && fieldsHaveDistinctKeys rest

end

theorem hasDistinctKeys_array_iff {items : List Value}
    : (array items).hasDistinctKeys ↔ ∀ v ∈ items, v.hasDistinctKeys := by
  rw [hasDistinctKeys]
  induction items with
  | nil => simp [itemsHaveDistinctKeys]
  | cons v rest ih => simp [itemsHaveDistinctKeys, ih]

theorem hasDistinctKeys_object_iff {fields : List (String × Value)}
    : (object fields).hasDistinctKeys
        ↔
      (fields.map Prod.fst).Nodup ∧ ∀ f ∈ fields, f.2.hasDistinctKeys := by
  have hfields : fieldsHaveDistinctKeys fields ↔ ∀ f ∈ fields, f.2.hasDistinctKeys := by
    induction fields with
    | nil => simp [fieldsHaveDistinctKeys]
    | cons f rest ih =>
      rw [fieldsHaveDistinctKeys, Bool.and_eq_true, ih, List.forall_mem_cons]
  rw [hasDistinctKeys, Bool.and_eq_true, decide_eq_true_iff, hfields]

end Json.Value

namespace Payload

/-! ### The order of fields -/

/-- A key of the first field and a key of another one do not get in each other's way. -/
theorem cons_assign_comm {name : String} {secondName : Option String} {shape : Shape α}
    {missing : Option α} {others : Fields σ β} {j k : String} (hj : goesBy name secondName j)
    (hk : ¬goesBy name secondName k) (v w : Value) (slots : Option α × σ)
    : let fields := Fields.cons name secondName shape missing others
      SameOutcome (fields.assign j v slots >>= (fields.assign k w ·))
        (fields.assign k w slots >>= (fields.assign j v ·)) := by
  obtain ⟨slot, slots⟩ := slots
  simp only [Fields.assign, if_pos hj, if_neg hk, bind_assoc, pure_bind]
  cases slot with
  | some a => exact .bind_error (.ok ()) _ _ _
  | none =>
    simp only [Option.isSome_none, Bool.false_eq_true, if_false, bind_assoc, pure_bind]
    exact .swap _ _ fun a slots => (some a, slots)

/-- Two keys that stand next to each other may change places. -/
theorem Fields.assign_comm : (fields : Fields σ β) → (j k : String) → (v w : Value) → (slots : σ) →
    SameOutcome (fields.assign j v slots >>= (fields.assign k w ·))
      (fields.assign k w slots >>= (fields.assign j v ·))
  | .nil, _, _, _, _, () => .ok ()
  | .cons name secondName shape missing others, j, k, v, w, (slot, slots) => by
    by_cases hj : goesBy name secondName j
    . by_cases hk : goesBy name secondName k
      . -- Either way the second key finds the field taken.
        simp only [Fields.assign, if_pos hj, if_pos hk]
        cases slot with
        | some a => exact .error _ _
        | none =>
          simp only [Option.isSome_none, Option.isSome_some, Bool.false_eq_true, if_false, if_true,
            bind_assoc, pure_bind]
          exact .bind_error _ _ _ _
      . exact cons_assign_comm hj hk v w (slot, slots)
    . by_cases hk : goesBy name secondName k
      . exact (cons_assign_comm hk hj w v (slot, slots)).symm
      . simp only [Fields.assign, if_neg hj, if_neg hk, bind_assoc, pure_bind]
        have hothers := (others.assign_comm j k v w slots).map fun slots => (slot, slots)
        simpa only [map_eq_pure_bind, bind_assoc] using hothers

/-- Without repeated keys, the order of the fields does not matter. -/
theorem Fields.foldlM_assign_sortFields (fields : Fields σ β) {members : List (String × Value)}
    (hkeys : (members.map Prod.fst).Nodup) (slots : σ)
    : SameOutcome
        ((Value.sortFields members).foldlM (fun slots f => fields.assign f.1 f.2 slots) slots)
        (members.foldlM (fun slots f => fields.assign f.1 f.2 slots) slots) := by
  apply SameOutcome.foldlM_perm (Value.perm_sortFields hkeys)
  intro slots f g
  exact fields.assign_comm f.1 g.1 f.2 g.2 slots

/-! ### Reading canonical trees -/

section

variable {v : Value}

theorem list_ofValue_canonical {item : Shape α}
    (hitem : ∀ {v}, v.hasDistinctKeys → SameOutcome (item.ofValue v.canonical) (item.ofValue v))
    (hv : v.hasDistinctKeys)
    : SameOutcome ((Shape.list item).ofValue v.canonical) ((Shape.list item).ofValue v) := by
  cases v with
  | array items =>
    rw [Value.canonical, Value.canonicalItems_eq_map, Shape.ofValue, Shape.ofValue, List.mapM_map]
    apply SameOutcome.mapM
    intro v hmem
    exact hitem (Value.hasDistinctKeys_array_iff.mp hv v hmem)
  | _ => exact .error _ _

theorem record_ofValue_canonical {name : String} {fields : Fields σ β} {make : β → α}
    (hassign : ∀ key {v}, v.hasDistinctKeys → ∀ slots,
      SameOutcome (fields.assign key v.canonical slots) (fields.assign key v slots))
    (hitems : ∀ {vs : List Value}, (∀ v ∈ vs, v.hasDistinctKeys) → ∀ length,
      SameOutcome (withoutSurplus length (fields.ofItems (vs.map Value.canonical)))
        (withoutSurplus length (fields.ofItems vs)))
    (hv : v.hasDistinctKeys)
    : SameOutcome ((Shape.record name fields make).ofValue v.canonical)
        ((Shape.record name fields make).ofValue v) := by
  cases v with
  | array items =>
    have hmake := (hitems (Value.hasDistinctKeys_array_iff.mp hv) items.length).map make
    rw [map_withoutSurplus, map_withoutSurplus] at hmake
    rw [Value.canonical, Value.canonicalItems_eq_map, Shape.ofValue, Shape.ofValue, List.length_map]
    exact hmake
  | object members =>
    obtain ⟨hkeys, hmembers⟩ := Value.hasDistinctKeys_object_iff.mp hv
    rw [Value.canonical, Value.ofFields, Value.canonicalFields_eq_map, Shape.ofValue, Shape.ofValue]
    have hsorted : ((members.map fun f => (f.1, f.2.canonical)).map Prod.fst).Nodup := by
      rw [List.map_map]
      exact hkeys
    refine SameOutcome.bind ?_ fun slots => .refl _
    apply (fields.foldlM_assign_sortFields hsorted fields.blank).trans
    rw [List.foldlM_map]
    apply SameOutcome.foldlM
    intro f hf slots
    exact hassign f.1 (hmembers f hf) slots
  | _ => exact .error _ _

theorem either_ofValue_canonical {name : String} {first : Shape β} {second : Shape γ}
    {ofFirst : β → α} {ofSecond : γ → α}
    (hfirst : SameOutcome (first.ofValue v.canonical) (first.ofValue v))
    (hsecond : SameOutcome (second.ofValue v.canonical) (second.ofValue v))
    : SameOutcome ((Shape.either name first second ofFirst ofSecond).ofValue v.canonical)
        ((Shape.either name first second ofFirst ofSecond).ofValue v) := by
  rw [Shape.ofValue, Shape.ofValue]
  generalize first.ofValue v.canonical = x, first.ofValue v = y at hfirst
  cases hfirst with
  | ok b => exact .ok _
  | error _ _ =>
    generalize second.ofValue v.canonical = x, second.ofValue v = y at hsecond
    cases hsecond with
    | ok c => exact .ok _
    | error _ _ => exact .error _ _

end

mutual

/-- A tree without repeated keys is read as its canonical form is. -/
theorem Shape.ofValue_canonical : (shape : Shape α) → {v : Value} → v.hasDistinctKeys →
    SameOutcome (shape.ofValue v.canonical) (shape.ofValue v)
  | .text, v, _ => by
    cases v with
    | string s => exact .ok s
    | _ => exact .error _ _
  | .count bits, v, _ => by
    cases v with
    | int n => exact .refl _
    | _ => exact .error _ _
  | .any, v, _ => by
    rw [Shape.ofValue, Shape.ofValue, v.canonical_canonical]
    exact .ok _
  | .optional inner, v, hv => by
    cases v with
    | null => exact .ok none
    | _ => exact (inner.ofValue_canonical hv).map some
  | .list item, _, hv => list_ofValue_canonical item.ofValue_canonical hv
  | .record _ fields _, _, hv =>
    record_ofValue_canonical fields.assign_canonical fields.ofItems_canonical hv
  | .either _ first second _ _, _, hv =>
    either_ofValue_canonical (first.ofValue_canonical hv) (second.ofValue_canonical hv)

theorem Fields.assign_canonical : (fields : Fields σ β) → (key : String) → {v : Value} →
    v.hasDistinctKeys → (slots : σ) →
      SameOutcome (fields.assign key v.canonical slots) (fields.assign key v slots)
  | .nil, _, _, _, () => .ok ()
  | .cons name secondName shape _ others, key, v, hv, (slot, slots) => by
    rw [Fields.assign, Fields.assign]
    by_cases hkey : goesBy name secondName key
    . rw [if_pos hkey, if_pos hkey]
      cases slot with
      | some a => exact .error _ _
      | none => exact (shape.ofValue_canonical hv).map fun a => (some a, slots)
    . rw [if_neg hkey, if_neg hkey]
      exact (others.assign_canonical key hv slots).map fun slots => (slot, slots)

theorem Fields.ofItems_canonical : (fields : Fields σ β) → {vs : List Value} →
    (∀ v ∈ vs, v.hasDistinctKeys) → (length : Nat) →
      SameOutcome (withoutSurplus length (fields.ofItems (vs.map Value.canonical)))
        (withoutSurplus length (fields.ofItems vs))
  | .nil, vs, _, length => by
    rw [Fields.ofItems, Fields.ofItems]
    cases vs with
    | nil => exact .ok ()
    | cons v vs => exact .error _ _
  | .cons _ _ _ _ _, [], _, length => .refl _
  | .cons name secondName shape missing others, v :: vs, hvs, length => by
    obtain ⟨hv, hvs⟩ := List.forall_mem_cons.mp hvs
    rw [List.map_cons, withoutSurplus_ofItems_cons, withoutSurplus_ofItems_cons]
    apply (shape.ofValue_canonical hv).bind
    intro a
    exact (others.ofItems_canonical hvs length).map fun b => (a, b)

end

/-! ### Reading texts -/

/-- A text is read by its layout with the outcome that reading its tree has. -/
theorem Shape.ofText_sameOutcome (shape : Shape α) {s : String} {tree : Value}
    (htree : Json.readWithin Json.nestingLimit s.toList = .ok tree)
    (hkeys : tree.hasDistinctKeys)
    : SameOutcome (shape.ofText s) (shape.ofValue tree.canonical) := by
  obtain ⟨⟨v, rest⟩, hv, hrest⟩ := Except.bind_eq_ok_iff.mp htree
  obtain ⟨⟨⟩, hend, hrest⟩ := Except.bind_eq_ok_iff.mp hrest
  cases hrest
  have hread := shape.ofChars_readsAs hv
  have htext : SameOutcome (shape.ofText s) (shape.ofValue tree) := by
    rw [Shape.ofText]
    generalize shape.ofChars Json.nestingLimit s.toList = r, shape.ofValue tree = x at hread
    cases hread with
    | ok a =>
      simp only [bind, Except.bind, hend]
      exact .ok a
    | error _ _ => exact .error _ _
  exact htext.trans (shape.ofValue_canonical hkeys).symm

/--
Payloads of all four kinds are read from a text where they are read from the tree that the text is,
and are the same then.
-/
theorem payload_texts_are_read_as_trees {s : String} {tree : Value}
    (htree : Json.readWithin Json.nestingLimit s.toList = .ok tree)
    (hkeys : tree.hasDistinctKeys)
    : Json.read s = .ok tree.canonical
        ∧
      (∀ request, Google.Request.shape.ofText s = .ok request
        ↔ Google.Request.shape.ofValue tree.canonical = .ok request)
        ∧
      (∀ response, Google.Response.shape.ofText s = .ok response
        ↔ Google.Response.shape.ofValue tree.canonical = .ok response)
        ∧
      (∀ request, OpenAi.Request.shape.ofText s = .ok request
        ↔ OpenAi.Request.shape.ofValue tree.canonical = .ok request)
        ∧
      ∀ response, OpenAi.Response.shape.ofText s = .ok response
        ↔ OpenAi.Response.shape.ofValue tree.canonical = .ok response := by
  refine ⟨?_, ?_, ?_, ?_, ?_⟩
  . rw [Json.read, htree]
    rfl
  . exact fun request => (Google.Request.shape.ofText_sameOutcome htree hkeys).eq_ok_iff
  . exact fun response => (Google.Response.shape.ofText_sameOutcome htree hkeys).eq_ok_iff
  . exact fun request => (OpenAi.Request.shape.ofText_sameOutcome htree hkeys).eq_ok_iff
  . exact fun response => (OpenAi.Response.shape.ofText_sameOutcome htree hkeys).eq_ok_iff

theorem payload_texts_are_read_as_trees_of_unsorted_fields
    : let tree : Value := .object
        [ ("usage", .array [.int 7]), ("note", .array [.object []]),
          ("choices", .array [.array [.int 0, .object [("role", .string "tool")]]]) ]
      let message : OpenAi.Message := ⟨some "tool", none, none, none, none⟩
      let response : OpenAi.Response :=
        ⟨none, none, [⟨some 0, some message, none⟩], some ⟨some 7, none⟩⟩
      Json.readWithin Json.nestingLimit tree.text.toList = .ok tree
        ∧ tree.hasDistinctKeys
        ∧ OpenAi.Response.shape.ofText tree.text = .ok response
        ∧ OpenAi.Response.shape.ofValue tree.canonical = .ok response := by
  intro tree message response
  have htree : Json.readWithin Json.nestingLimit tree.text.toList = .ok tree := by
    rw [Value.text, String.toList_ofList]
    rfl
  have hkeys : tree.hasDistinctKeys := by decide
  have htext : OpenAi.Response.shape.ofText tree.text = .ok response := by
    rw [Shape.ofText, Value.text, String.toList_ofList]
    rfl
  obtain ⟨-, -, -, -, hresponse⟩ := payload_texts_are_read_as_trees htree hkeys
  exact ⟨htree, hkeys, htext, (hresponse response).mp htext⟩

/-- Of a repeated key the tree keeps the last, while the text is not read at all. -/
example
    : let tree : Value := .object [("model", .string "a"), ("model", .string "b")]
      Json.read tree.text = .ok tree.canonical
        ∧ OpenAi.Request.shape.ofText tree.text = .error .mismatch
        ∧ OpenAi.Request.shape.ofValue tree.canonical = .ok ⟨some "b", []⟩ :=
  ⟨rfl, rfl, rfl⟩

end Payload
end ChatTelemetry
