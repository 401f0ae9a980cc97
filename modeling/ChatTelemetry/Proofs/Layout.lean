import ChatTelemetry.Proofs.Reading

/-!
This module shows that a text is read by its layout as the tree that it is would be: a reading of
the text succeeds where one of the tree does, and then both give the same.
-/

namespace ChatTelemetry.Payload

open Json (Value Fault Front Entries BeginsWith BeginsWithField skipBlanks)

section

variable {depth : Nat} {cs rest : List Char} {v : Value}

theorem text_readsAs (h : BeginsWith depth cs v rest)
    : ReadsAs (Shape.text.ofChars depth cs) (Shape.text.ofValue v) rest := by
  have hfront := Json.front_of_value h
  rw [Shape.ofChars]
  generalize skipBlanks cs = cs at hfront
  cases hfront with
  | string h =>
    simp only [h, Shape.ofValue]
    exact .ok _ _
  | number hc h =>
    obtain ⟨-, hquote, -, -⟩ := Json.ne_of_beginsNumber hc
    obtain ⟨n, rfl⟩ | ⟨x, rfl⟩ := Json.isNumber_of_number h
    all_goals
      simp [hquote, Shape.ofValue]
      exact .error _ _ _
  | _ => exact .error _ _ _

theorem count_readsAs (bits : Nat) (h : BeginsWith depth cs v rest)
    : ReadsAs ((Shape.count bits).ofChars depth cs) ((Shape.count bits).ofValue v) rest := by
  rw [Shape.ofChars, Json.value_skipBlanks]
  cases v with
  | int n =>
    rw [Json.value_zero_of_int h, Shape.ofValue]
    dsimp only
    split
    . exact .ok _ _
    . exact .error _ _ _
  | _ =>
    split
    . next n rest' hint =>
      cases h.symm.trans (Json.value_of_le hint (Nat.zero_le depth))
    . exact .error _ _ _

theorem any_readsAs (h : BeginsWith depth cs v rest)
    : ReadsAs (Shape.any.ofChars depth cs) (Shape.any.ofValue v) rest := by
  unfold BeginsWith at h
  rw [Shape.ofChars, h]
  exact .ok _ _

theorem optional_readsAs {inner : Shape α} (h : BeginsWith depth cs v rest)
    (hinner : ∀ {cs}, BeginsWith depth cs v rest →
      ReadsAs (inner.ofChars depth cs) (inner.ofValue v) rest)
    : ReadsAs ((Shape.optional inner).ofChars depth cs) ((Shape.optional inner).ofValue v)
        rest := by
  have hread : BeginsWith depth (skipBlanks cs) v rest := by
    rw [BeginsWith, Json.value_skipBlanks, h]
  have hsome := (hinner hread).map some
  have hfront := Json.front_of_value h
  rw [Shape.ofChars]
  generalize skipBlanks cs = cs at hfront hsome
  cases hfront with
  | null h =>
    simp only [h]
    exact .ok _ _
  | number hc h =>
    obtain ⟨hn, -, -, -⟩ := Json.ne_of_beginsNumber hc
    obtain ⟨n, rfl⟩ | ⟨x, rfl⟩ := Json.isNumber_of_number h
    all_goals simpa [hn, Shape.ofValue] using hsome
  | _ => exact hsome

theorem list_readsAs {item : Shape α} (h : BeginsWith depth cs v rest)
    (hitem : ∀ {depth cs v rest}, BeginsWith depth cs v rest →
      ReadsAs (item.ofChars depth cs) (item.ofValue v) rest)
    : ReadsAs ((Shape.list item).ofChars depth cs) ((Shape.list item).ofValue v) rest := by
  have hfront := Json.front_of_value h
  rw [Shape.ofChars]
  generalize skipBlanks cs = cs at hfront
  cases hfront with
  | @array depth cs rest vs h =>
    simp only [Json.elements_eq, Shape.ofValue]
    rw [List.mapM_eq_reverse_foldlM_cons]
    apply ReadsAs.map
    apply h.loop_readsAs Json.nextElement_shorter Json.length_of_value (Nat.le_refl _)
    intro begun v left hv _ items
    exact (hitem hv).map (· :: items)
  | number hc h =>
    obtain ⟨-, -, hbracket, -⟩ := Json.ne_of_beginsNumber hc
    obtain ⟨n, rfl⟩ | ⟨x, rfl⟩ := Json.isNumber_of_number h
    all_goals
      simp [hbracket, Shape.ofValue]
      exact .error _ _ _
  | _ => exact .error _ _ _

/-- What is read of an array of so many elements, if none of them is left over. -/
def withoutSurplus (length : Nat) (read : Except Mismatch (β × List Value))
    : Except Mismatch β := do
  let (b, left) ← read
  if left.isEmpty then return b else .error (.surplus length)

section

variable {length : Nat} (read : Except Mismatch (β × List Value)) (g : β → γ)

theorem map_withoutSurplus
    : g <$> withoutSurplus length read
        =
      (do
        let (b, left) ← read
        if left.isEmpty then return g b else .error (.surplus length)) := by
  rcases read with mismatch | ⟨b, left | ⟨v, left⟩⟩ <;> rfl

theorem withoutSurplus_map
    : withoutSurplus length (do
        let (b, left) ← read
        return (g b, left))
        =
      g <$> withoutSurplus length read := by
  rcases read with mismatch | ⟨b, left | ⟨v, left⟩⟩ <;> rfl

end

theorem withoutSurplus_ofItems_cons {name : String} {secondName : Option String} {shape : Shape α}
    {missing : Option α} {others : Fields σ β} (length : Nat) (v : Value) (vs : List Value)
    : withoutSurplus length ((Fields.cons name secondName shape missing others).ofItems (v :: vs))
        =
      (do
        let a ← shape.ofValue v
        (fun b => (a, b)) <$> withoutSurplus length (others.ofItems vs)) := by
  rw [Fields.ofItems]
  cases shape.ofValue v with
  | error mismatch => rfl
  | ok a => exact withoutSurplus_map _ _

theorem record_readsAs {name : String} {fields : Fields σ β} {make : β → α}
    (h : BeginsWith depth cs v rest)
    (hassign : ∀ {depth key cs begun v rest}, Json.colon cs = .ok begun →
      BeginsWith depth begun v rest →
      ∀ slots, ReadsAs (fields.assignChars depth key cs slots) (fields.assign key v slots) rest)
    (helements : ∀ {depth cs vs rest}, Entries nextElement (BeginsWith depth) true cs vs rest →
      ∀ length, ReadsAs (fields.ofElements depth true cs)
        (withoutSurplus length (fields.ofItems vs)) rest)
    : ReadsAs ((Shape.record name fields make).ofChars depth cs)
        ((Shape.record name fields make).ofValue v) rest := by
  have hfront := Json.front_of_value h
  rw [Shape.ofChars]
  generalize skipBlanks cs = cs at hfront
  cases hfront with
  | @array depth cs rest vs h =>
    have hmake := (helements h vs.length).map make
    rw [map_withoutSurplus] at hmake
    rw [Shape.ofValue]
    exact hmake
  | @object depth cs rest members h =>
    simp only [Json.members_eq, Shape.ofValue]
    apply ReadsAs.bind
    . apply h.loop_readsAs Json.nextMember_shorter Json.BeginsWithField.length_lt (Nat.le_refl _)
      rintro begun f left ⟨afterKey, begun', hkey, hcolon, hv⟩ _ slots
      rw [Json.keyed, hkey]
      exact hassign hcolon hv slots
    . intro slots
      dsimp only
      cases fields.complete slots with
      | ok b => exact .ok _ _
      | error mismatch => exact .error _ _ _
  | number hc h =>
    obtain ⟨-, -, hbracket, hbrace⟩ := Json.ne_of_beginsNumber hc
    obtain ⟨n, rfl⟩ | ⟨x, rfl⟩ := Json.isNumber_of_number h
    all_goals
      simp [hbracket, hbrace, Shape.ofValue]
      exact .error _ _ _
  | _ => exact .error _ _ _

theorem either_readsAs {name : String} {first : Shape β} {second : Shape γ} {ofFirst : β → α}
    {ofSecond : γ → α} (h : BeginsWith depth cs v rest)
    : ReadsAs ((Shape.either name first second ofFirst ofSecond).ofChars depth cs)
        ((Shape.either name first second ofFirst ofSecond).ofValue v) rest := by
  unfold BeginsWith at h
  rw [Shape.ofChars, h]
  simp only [bind, Except.bind]
  cases (Shape.either name first second ofFirst ofSecond).ofValue v with
  | ok a => exact .ok _ _
  | error mismatch => exact .error _ _ _

end

mutual

/-- Where a tree stands, reading the text by a layout is reading the tree by it. -/
theorem Shape.ofChars_readsAs : (shape : Shape α) → {depth : Nat} → {cs rest : List Char} →
    {v : Value} → BeginsWith depth cs v rest →
      ReadsAs (shape.ofChars depth cs) (shape.ofValue v) rest
  | .text, _, _, _, _, h => text_readsAs h
  | .count bits, _, _, _, _, h => count_readsAs bits h
  | .any, _, _, _, _, h => any_readsAs h
  | .optional inner, _, _, _, _, h => optional_readsAs h inner.ofChars_readsAs
  | .list item, _, _, _, _, h => list_readsAs h item.ofChars_readsAs
  | .record _ fields _, _, _, _, _, h =>
    record_readsAs h fields.assignChars_readsAs fields.ofElements_readsAs
  | .either _ _ _ _ _, _, _, _, _, h => either_readsAs h

theorem Fields.assignChars_readsAs : (fields : Fields σ β) → {depth : Nat} → {key : String} →
    {cs begun rest : List Char} → {v : Value} → Json.colon cs = .ok begun →
      BeginsWith depth begun v rest → (slots : σ) →
        ReadsAs (fields.assignChars depth key cs slots) (fields.assign key v slots) rest
  | .nil, _, _, _, _, _, _, hcolon, h, () => by
    rw [Fields.assignChars, hcolon, Fields.assign]
    simp only [bind, Except.bind, Json.skip_of_value h]
    exact .ok _ _
  | .cons name secondName shape missing others, _, key, _, _, _, _, hcolon, h, (slot, slots) => by
    rw [Fields.assignChars, Fields.assign]
    by_cases hkey : goesBy name secondName key
    . rw [if_pos hkey, if_pos hkey]
      cases slot with
      | some a => exact .error _ _ _
      | none =>
        rw [hcolon]
        exact (shape.ofChars_readsAs h).map fun a => (some a, slots)
    . rw [if_neg hkey, if_neg hkey]
      exact (others.assignChars_readsAs hcolon h slots).map fun slots => (slot, slots)

theorem Fields.ofElements_readsAs : (fields : Fields σ β) → {depth : Nat} → {isFirst : Bool} →
    {cs rest : List Char} → {vs : List Value} →
      Entries nextElement (BeginsWith depth) isFirst cs vs rest → (length : Nat) →
        ReadsAs (fields.ofElements depth isFirst cs)
          (withoutSurplus length (fields.ofItems vs)) rest
  | .nil, _, _, _, _, _, h, length => by
    rw [Fields.ofElements, Fields.ofItems]
    cases h with
    | closed hnext =>
      obtain ⟨after, hcs⟩ := Json.exists_of_nextElement_none hnext
      rw [hcs]
      exact .ok _ _
    | more hnext ha has =>
      have hcs := Json.ne_of_nextElement_some hnext
      split
      . exact .error _ _ _
      . next after heq => exact absurd heq (hcs after)
      . exact .error _ _ _
  | .cons name secondName shape missing others, _, _, _, _, _, h, length => by
    simp only [Fields.ofElements]
    cases h with
    | closed hnext =>
      simp only [hnext, Fields.ofItems]
      cases missing with
      | none => exact .error _ _ _
      | some a =>
        dsimp only
        rw [withoutSurplus_map _ fun b => (a, b)]
        exact (others.ofElements_readsAs (.closed hnext) length).map fun b => (a, b)
    | more hnext hv hvs =>
      rw [hnext, withoutSurplus_ofItems_cons]
      apply (shape.ofChars_readsAs hv).bind
      intro a
      exact (others.ofElements_readsAs hvs length).map fun b => (a, b)

end

end ChatTelemetry.Payload
