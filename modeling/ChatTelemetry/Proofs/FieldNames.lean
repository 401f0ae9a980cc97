import ChatTelemetry.Proofs.Enclosure
import Mathlib.Logic.Relation

/-!
This module shows what the names of fields mean to the reading of a payload: a field is read alike
by its name and by the same name in snake case, though not by both at once, and fields that a record
does not know are as good as left out.
-/

namespace ChatTelemetry.Payload

open Json (Value)

/-- The name with every capital letter as an underscore and its small letter. -/
def snakeCase (name : String) : String :=
  .ofList (name.toList.flatMap fun c => if c.isUpper then ['_', c.toLower] else [c])

namespace Fields

/-- The names of the fields, without their second names. -/
def names : Fields σ β → List String
  | nil => []
  | cons name _ _ _ others => name :: others.names

/-- Whether a key is the name or the second name of a field. -/
def knows : Fields σ β → String → Bool
  | nil, _ => false
  | cons name secondName _ _ others, key => goesBy name secondName key || others.knows key

end Fields

mutual

/-- Whether every field goes by its name in snake case as well, and no other field does. -/
def Shape.hasSnakeNames : Shape α → Bool
  | .optional inner => inner.hasSnakeNames
  | .list item => item.hasSnakeNames
  | .record _ fields _ => fields.haveSnakeNames
  | .either _ first second _ _ => first.hasSnakeNames && second.hasSnakeNames
  | _ => true

def Fields.haveSnakeNames : Fields σ β → Bool
  | .nil => true
  | .cons name secondName shape _ others =>
    goesBy name secondName (snakeCase name) &&
      (others.names.all fun other =>
        !goesBy name secondName other && !goesBy name secondName (snakeCase other)) &&
      shape.hasSnakeNames && others.haveSnakeNames

end

/-! ### Two keys of one field -/

/-- Whether two keys are names of the same field. -/
def Fields.NamesOne : Fields σ β → (j k : String) → Prop
  | .nil, _, _ => False
  | .cons name secondName _ _ others, j, k =>
    (goesBy name secondName j ∧ goesBy name secondName k)
      ∨ (¬goesBy name secondName j ∧ ¬goesBy name secondName k ∧ others.NamesOne j k)

theorem Fields.namesOne_snakeCase : (fields : Fields σ β) → fields.haveSnakeNames = true →
    {name : String} → name ∈ fields.names → fields.NamesOne name (snakeCase name)
  | .nil, _, _, hname => by contradiction
  | .cons first secondName shape _ others, h, name, hname => by
    rw [Fields.haveSnakeNames] at h
    simp only [Bool.and_eq_true, List.all_eq_true, Bool.not_eq_true'] at h
    obtain ⟨⟨⟨hfirst, hothers⟩, -⟩, h⟩ := h
    obtain rfl | hname := List.mem_cons.mp hname
    . exact .inl ⟨by simp [goesBy], hfirst⟩
    . obtain ⟨hne, hsnake⟩ := hothers name hname
      exact .inr ⟨by simp [hne], by simp [hsnake], others.namesOne_snakeCase h hname⟩

theorem Fields.assign_of_namesOne : (fields : Fields σ β) → {j k : String} →
    fields.NamesOne j k → (v : Value) → (slots : σ) →
      fields.assign j v slots = fields.assign k v slots
  | .nil, _, _, h, _, _ => by contradiction
  | .cons _ _ _ _ others, _, _, h, v, (slot, slots) => by
    rw [Fields.assign, Fields.assign]
    obtain ⟨hj, hk⟩ | ⟨hj, hk, h⟩ := h
    . rw [if_pos hj, if_pos hk]
    . rw [if_neg hj, if_neg hk, others.assign_of_namesOne h]

/-- A field is not read twice. -/
theorem Fields.assign_twice : (fields : Fields σ β) → {j k : String} → fields.NamesOne j k →
    (v w : Value) → (slots : σ) → (e : Mismatch) →
      SameOutcome (fields.assign j v slots >>= (fields.assign k w ·)) (.error e : Except Mismatch σ)
  | .nil, _, _, h, _, _, _, _ => by contradiction
  | .cons name _ shape _ others, j, k, h, v, w, (slot, slots), e => by
    simp only [Fields.assign]
    obtain ⟨hj, hk⟩ | ⟨hj, hk, h⟩ := h
    . simp only [if_pos hj, if_pos hk]
      cases slot with
      | some a => exact .error _ _
      | none =>
        simp only [Option.isSome_none, Option.isSome_some, Bool.false_eq_true, if_false, if_true,
          bind_assoc, pure_bind]
        exact .bind_error _ (.error e : Except Mismatch Unit) _ e
    . simp only [if_neg hj, if_neg hk, bind_assoc, pure_bind]
      have hothers : SameOutcome
          ((fun slots => (slot, slots)) <$> (others.assign j v slots >>= (others.assign k w ·)))
          (.error e : Except Mismatch _) :=
        (others.assign_twice h v w slots e).map _
      simpa only [map_eq_pure_bind, bind_assoc] using hothers

theorem Fields.assign_of_not_knows : (fields : Fields σ β) → {key : String} →
    fields.knows key = false → (v : Value) → (slots : σ) → fields.assign key v slots = .ok slots
  | .nil, _, _, _, _ => rfl
  | .cons _ _ _ _ others, _, h, v, (slot, slots) => by
    obtain ⟨hkey, h⟩ := Bool.or_eq_false_iff.mp h
    rw [Fields.assign, if_neg (by simp [hkey]), others.assign_of_not_knows h]
    rfl

/-! ### Objects -/

/-- What may be done to an object without a change to the record that it is read as. -/
inductive Fields.Rewords (fields : Fields σ β)
    : (members members' : List (String × Value)) → Prop
  /-- A name gives way to the same name in snake case, if that is not a key already. -/
  | renamed (before after : List (String × Value)) (name : String) (v : Value)
    (hname : name ∈ fields.names)
    (hfree : snakeCase name ∉ (before ++ (name, v) :: after).map Prod.fst)
    : Rewords fields (before ++ (name, v) :: after)
        (Value.insertField (snakeCase name) v (before ++ after))
  /-- A field is added that the record does not know. -/
  | added (members : List (String × Value)) (key : String) (v : Value)
    (hunknown : fields.knows key = false) (hnew : key ∉ members.map Prod.fst)
    : Rewords fields members (Value.insertField key v members)

/-- Reads all members of an object into their fields. -/
def Fields.assignAll (fields : Fields σ β) (slots : σ) (members : List (String × Value))
    : Except Mismatch σ :=
  members.foldlM (fun slots f => fields.assign f.1 f.2 slots) slots

section

variable {fields : Fields σ β} {members members' : List (String × Value)} (slots : σ)

theorem Fields.assignAll_cons (f : String × Value)
    : fields.assignAll slots (f :: members)
        =
      (fields.assign f.1 f.2 slots >>= fun slots => fields.assignAll slots members) := by
  rw [assignAll, List.foldlM_cons]
  rfl

theorem Fields.assignAll_perm (h : members.Perm members')
    : SameOutcome (fields.assignAll slots members) (fields.assignAll slots members') := by
  apply SameOutcome.foldlM_perm h
  intro slots f g
  exact fields.assign_comm f.1 g.1 f.2 g.2 slots

theorem Fields.Rewords.assignAll (hfields : fields.haveSnakeNames = true)
    (h : fields.Rewords members members')
    : SameOutcome (fields.assignAll slots members) (fields.assignAll slots members') := by
  cases h with
  | renamed before after name v hname hfree =>
    have hrest : snakeCase name ∉ (before ++ after).map Prod.fst := by
      simp only [List.map_append, List.map_cons, List.mem_append, List.mem_cons, not_or] at hfree ⊢
      exact ⟨hfree.1, hfree.2.2⟩
    apply (assignAll_perm slots List.perm_middle).trans
    refine SameOutcome.trans ?_ (assignAll_perm slots (Value.perm_insertField hrest)).symm
    have hone := fields.namesOne_snakeCase hfields hname
    rw [assignAll_cons, assignAll_cons, fields.assign_of_namesOne hone]
    exact .refl _
  | added _ key v hunknown hnew =>
    refine SameOutcome.trans ?_ (assignAll_perm slots (Value.perm_insertField hnew)).symm
    rw [assignAll_cons, fields.assign_of_not_knows hunknown]
    exact .refl _

theorem Fields.assignAll_ambiguous {j k : String} (h : fields.NamesOne j k) (hne : j ≠ k)
    (hj : j ∈ members.map Prod.fst) (hk : k ∈ members.map Prod.fst) (e : Mismatch)
    : SameOutcome (fields.assignAll slots members) (.error e : Except Mismatch σ) := by
  obtain ⟨⟨j, v⟩, hv, rfl⟩ := List.mem_map.mp hj
  obtain ⟨before, after, rfl⟩ := List.append_of_mem hv
  have hk' : k ∈ (before ++ after).map Prod.fst := by
    simpa [Ne.symm hne] using hk
  obtain ⟨⟨k, w⟩, hw, rfl⟩ := List.mem_map.mp hk'
  obtain ⟨front, back, hothers⟩ := List.append_of_mem hw
  apply (assignAll_perm slots List.perm_middle).trans
  rw [hothers]
  apply (assignAll_perm slots (List.perm_middle.cons (j, v))).trans
  rw [assignAll_cons]
  simp only [assignAll_cons, ← bind_assoc]
  exact (fields.assign_twice h v w slots e).bind (g := fun slots => fields.assignAll slots _)
    fun slots => .refl _

end

/-! ### Payloads -/

/-- A payload in which one object has been reworded. -/
inductive Reworded (shape : Shape α) : Value → Value → Prop
  | intro {name : String} {fields : Fields σ β} {make : β → γ} {fill : Value → Value}
    {members members' : List (String × Value)}
    (hplace : Place (.record name fields make) shape fill)
    (h : fields.Rewords members members')
    : Reworded shape (fill (.object members)) (fill (.object members'))

/-- A payload in which one object has a field twice, by its name and by the same in snake case. -/
inductive IsAmbiguous (shape : Shape α) : Value → Prop
  | intro {name key : String} {fields : Fields σ β} {make : β → γ} {fill : Value → Value}
    {members : List (String × Value)} (hplace : Place (.record name fields make) shape fill)
    (hkey : key ∈ fields.names) (hne : key ≠ snakeCase key) (hname : key ∈ members.map Prod.fst)
    (hsnake : snakeCase key ∈ members.map Prod.fst)
    : IsAmbiguous shape (fill (.object members))

theorem Fields.hasSnakeNames_of_layoutOf? : (fields : Fields σ β) → fields.haveSnakeNames = true →
    {key : String} → {shape : Shape δ} → fields.layoutOf? key = some ⟨δ, shape⟩ →
      shape.hasSnakeNames = true
  | .nil, _, _, _, hkey => by contradiction
  | .cons name secondName shape _ others, h, key, _, hkey => by
    rw [Fields.haveSnakeNames, Bool.and_eq_true, Bool.and_eq_true] at h
    rw [Fields.layoutOf?] at hkey
    split at hkey
    . cases hkey
      exact h.1.2
    . exact others.hasSnakeNames_of_layoutOf? h.2 hkey

theorem Fields.hasSnakeNames_of_layoutAt? : (fields : Fields σ β) → fields.haveSnakeNames = true →
    {n : Nat} → {shape : Shape δ} → fields.layoutAt? n = some ⟨δ, shape⟩ →
      shape.hasSnakeNames = true
  | .nil, _, _, _, hposition => by contradiction
  | .cons _ _ shape _ others, h, n, _, hposition => by
    rw [Fields.haveSnakeNames, Bool.and_eq_true, Bool.and_eq_true] at h
    cases n with
    | zero =>
      cases hposition
      exact h.1.2
    | succ n => exact others.hasSnakeNames_of_layoutAt? h.2 hposition

theorem Place.hasSnakeNames {target : Shape β} {shape : Shape α} {fill : Value → Value}
    (h : Place target shape fill) (hshape : shape.hasSnakeNames = true)
    : target.hasSnakeNames = true := by
  induction h with
  | here => exact hshape
  | optional h ih => exact ih hshape
  | item before after h ih => exact ih hshape
  | @field _ _ _ _ _ _ fields _ _ _ before after hkey h ih =>
    exact ih (fields.hasSnakeNames_of_layoutOf? hshape hkey)
  | @position _ _ _ _ _ fields _ _ _ before after hposition h ih =>
    exact ih (fields.hasSnakeNames_of_layoutAt? hshape hposition)
  | second h ih => exact ih (Bool.and_eq_true_iff.mp hshape).2

theorem record_ofValue_ambiguous {name key : String} {fields : Fields σ β} {make : β → γ}
    {members : List (String × Value)} (hfields : fields.haveSnakeNames = true)
    (hkey : key ∈ fields.names) (hne : key ≠ snakeCase key) (hname : key ∈ members.map Prod.fst)
    (hsnake : snakeCase key ∈ members.map Prod.fst) (e : Mismatch)
    : SameOutcome ((Shape.record name fields make).ofValue (.object members))
        (.error e : Except Mismatch γ) := by
  have hone := fields.namesOne_snakeCase hfields hkey
  have hslots := fields.assignAll_ambiguous fields.blank hone hne hname hsnake e
  rw [Shape.ofValue]
  exact hslots.bind (g := fun slots => do return make (← fields.complete slots))
    fun slots => .refl _

section

variable {shape : Shape α} {v w : Value} (hshape : shape.hasSnakeNames = true)

include hshape

theorem Reworded.sameOutcome (h : Reworded shape v w)
    : SameOutcome (shape.ofValue v) (shape.ofValue w) := by
  obtain ⟨hplace, h⟩ := h
  apply hplace.continues.sameOutcome
  rw [Shape.ofValue, Shape.ofValue]
  apply (h.assignAll _ (hplace.hasSnakeNames hshape)).bind
  exact fun slots => .refl _

theorem sameOutcome_of_reworded (h : Relation.ReflTransGen (Reworded shape) v w)
    : SameOutcome (shape.ofValue v) (shape.ofValue w) := by
  induction h with
  | refl => exact .refl _
  | tail _ h ih => exact ih.trans (h.sameOutcome hshape)

theorem IsAmbiguous.ofValue_ne_ok (h : IsAmbiguous shape v) (a : α) : shape.ofValue v ≠ .ok a := by
  obtain ⟨hplace, hkey, hne, hname, hsnake⟩ := h
  have hfields := hplace.hasSnakeNames hshape
  have hwhole := hplace.continues.sameOutcome_error
    (record_ofValue_ambiguous hfields hkey hne hname hsnake (.missing ""))
  intro ha
  cases hwhole.eq_ok_iff.mp ha

end

/--
A payload is read alike with fields by their names and by the same names in snake case, and with
or without fields that are not known; with a field by both names it is not read at all.
-/
theorem names_of_fields_are_neutral (v w : Value)
    : (Relation.ReflTransGen (Reworded Google.Request.shape) v w →
        ∀ request, Google.Request.shape.ofValue v = .ok request
          ↔ Google.Request.shape.ofValue w = .ok request)
        ∧
      (Relation.ReflTransGen (Reworded Google.Response.shape) v w →
        ∀ response, Google.Response.shape.ofValue v = .ok response
          ↔ Google.Response.shape.ofValue w = .ok response)
        ∧
      (IsAmbiguous Google.Request.shape v →
        ∀ request, Google.Request.shape.ofValue v ≠ .ok request)
        ∧
      (IsAmbiguous Google.Response.shape v →
        ∀ response, Google.Response.shape.ofValue v ≠ .ok response)
        ∧
      (Relation.ReflTransGen (Reworded OpenAi.Request.shape) v w →
        ∀ request, OpenAi.Request.shape.ofValue v = .ok request
          ↔ OpenAi.Request.shape.ofValue w = .ok request)
        ∧
      (Relation.ReflTransGen (Reworded OpenAi.Response.shape) v w →
        ∀ response, OpenAi.Response.shape.ofValue v = .ok response
          ↔ OpenAi.Response.shape.ofValue w = .ok response) := by
  have hgoogleRequest : Google.Request.shape.hasSnakeNames = true := by decide +kernel
  have hgoogleResponse : Google.Response.shape.hasSnakeNames = true := by decide +kernel
  have hopenAiRequest : OpenAi.Request.shape.hasSnakeNames = true := by decide +kernel
  have hopenAiResponse : OpenAi.Response.shape.hasSnakeNames = true := by decide +kernel
  refine ⟨?_, ?_, ?_, ?_, ?_, ?_⟩
  . exact fun h request => (sameOutcome_of_reworded hgoogleRequest h).eq_ok_iff
  . exact fun h response => (sameOutcome_of_reworded hgoogleResponse h).eq_ok_iff
  . exact fun h request => h.ofValue_ne_ok hgoogleRequest request
  . exact fun h response => h.ofValue_ne_ok hgoogleResponse response
  . exact fun h request => (sameOutcome_of_reworded hopenAiRequest h).eq_ok_iff
  . exact fun h response => (sameOutcome_of_reworded hopenAiResponse h).eq_ok_iff

/-- Two names of fields within one another give way, and a field is added around them. -/
theorem names_of_fields_are_neutral_of_nested_data
    : let part (blob : String × Value) : Value :=
        .object [("contents", .array [.object [("parts", .array [.object [blob]])]])]
      let v := part ("inlineData", .object [("data", .string "AA=="), ("mimeType", .string "a/b")])
      let w : Value := .object
        [ ("contents", .array [.object [("parts", .array [.object
            [("inline_data",
              .object [("data", .string "AA=="), ("mime_type", .string "a/b")])]])]]),
          ("labels", .null) ]
      let ambiguous := part ("inlineData", .object [("mimeType", .null), ("mime_type", .null)])
      let content : Google.Content :=
        ⟨none, some [⟨none, some ⟨some "a/b", some "AA=="⟩, none, none, none⟩]⟩
      Relation.ReflTransGen (Reworded Google.Request.shape) v w
        ∧ Google.Request.shape.ofValue v = .ok ⟨[content], none⟩
        ∧ Google.Request.shape.ofValue w = .ok ⟨[content], none⟩
        ∧ IsAmbiguous Google.Request.shape ambiguous
        ∧ ∀ request, Google.Request.shape.ofValue ambiguous ≠ .ok request := by
  intro part v w ambiguous content
  have hpart : Place Google.Part.shape Google.Request.shape fun v =>
      .object [("contents", .array [.object [("parts", .array [v])]])] :=
    .field [] [] rfl (.item [] [] (.field [] [] rfl (.optional (.item [] [] .here))))
  have hblob : Place Google.Blob.shape Google.Request.shape fun v => part ("inlineData", v) :=
    .field [] [] rfl (.item [] [] (.field [] [] rfl (.optional (.item [] []
      (.field [] [] rfl (.optional .here))))))
  let blob : Value := .object [("data", .string "AA=="), ("mime_type", .string "a/b")]
  have hmime : Reworded Google.Request.shape v (part ("inlineData", blob)) :=
    .intro hblob (.renamed [("data", .string "AA==")] [] "mimeType" (.string "a/b") (by decide)
      (by decide))
  have hinline : Reworded Google.Request.shape (part ("inlineData", blob))
      (part ("inline_data", blob)) :=
    .intro hpart (.renamed [] [] "inlineData" blob (by decide) (by decide))
  have hlabels : Reworded Google.Request.shape (part ("inline_data", blob)) w :=
    .intro .here (.added [("contents", _)] "labels" .null rfl (by decide))
  have hreworded := ((Relation.ReflTransGen.single hmime).tail hinline).tail hlabels
  have hambiguous : IsAmbiguous Google.Request.shape ambiguous :=
    .intro hblob (by decide : "mimeType" ∈ _) (by decide) (by decide) (by decide)
  have hv : Google.Request.shape.ofValue v = .ok ⟨[content], none⟩ := rfl
  obtain ⟨hrequest, -⟩ := names_of_fields_are_neutral v w
  exact ⟨hreworded, hv, (hrequest hreworded _).mp hv, hambiguous,
    (names_of_fields_are_neutral ambiguous w).2.2.1 hambiguous⟩

end ChatTelemetry.Payload
