import ChatTelemetry.Json.Reader
import Mathlib.Data.List.Induction
import Mathlib.Data.String.Basic

/-!
This module shows that the canonical form of a tree is one: it stays as it is when it is made
canonical again, as do all trees that are read from a text.
-/

namespace ChatTelemetry.Json.Value

/-! ### Sorted fields -/

/-- Fields in the order of their keys, each key standing once. -/
def AreSorted (fields : List (String × Value)) : Prop :=
  fields.Pairwise fun f g => f.1 < g.1

section

variable {key : String} {v : Value} {f : String × Value} {fields : List (String × Value)}

theorem mem_of_mem_insertField (h : f ∈ insertField key v fields)
    : f = (key, v) ∨ f ∈ fields := by
  fun_induction insertField key v fields with
  | case1 => exact .inl (List.mem_singleton.mp h)
  | case2 k w rest hlt => exact List.mem_cons.mp h
  | case3 w rest hlt =>
    exact (List.mem_cons.mp h).imp_right (List.mem_cons_of_mem _)
  | case4 k w rest hlt hne ih =>
    obtain rfl | h := List.mem_cons.mp h
    . exact .inr List.mem_cons_self
    . exact (ih h).imp_right (List.mem_cons_of_mem _)

theorem AreSorted.insertField (h : AreSorted fields)
    : AreSorted (insertField key v fields) := by
  fun_induction Value.insertField key v fields with
  | case1 => exact List.pairwise_singleton _ _
  | case2 k w rest hlt =>
    refine List.pairwise_cons.mpr ⟨?_, h⟩
    intro g hg
    obtain rfl | hg := List.mem_cons.mp hg
    . exact hlt
    . exact lt_trans hlt (List.rel_of_pairwise_cons h hg)
  | case3 w rest hlt =>
    exact List.pairwise_cons.mpr ⟨fun g hg => List.rel_of_pairwise_cons h hg, h.of_cons⟩
  | case4 k w rest hlt hne ih =>
    refine List.pairwise_cons.mpr ⟨?_, ih h.of_cons⟩
    intro g hg
    obtain rfl | hg := mem_of_mem_insertField hg
    . exact lt_of_le_of_ne (not_lt.mp hlt) (Ne.symm hne)
    . exact List.rel_of_pairwise_cons h hg

theorem insertField_eq_append (h : ∀ f ∈ fields, f.1 < key)
    : insertField key v fields = fields ++ [(key, v)] := by
  induction fields with
  | nil => rfl
  | cons g rest ih =>
    have hg := h g List.mem_cons_self
    rw [insertField, if_neg hg.not_gt, if_neg hg.ne']
    rw [ih fun f hf => h f (List.mem_cons_of_mem _ hf), List.cons_append]

theorem sortFields_concat (fields : List (String × Value)) (key : String) (v : Value)
    : sortFields (fields ++ [(key, v)]) = insertField key v (sortFields fields) := by
  unfold sortFields
  rw [List.foldl_append]
  rfl

theorem areSorted_sortFields (fields : List (String × Value)) : AreSorted (sortFields fields) := by
  induction fields using List.reverseRecOn with
  | nil => exact .nil
  | append_singleton fields f ih =>
    rw [sortFields_concat fields f.1 f.2]
    exact ih.insertField

theorem mem_of_mem_sortFields (h : f ∈ sortFields fields) : f ∈ fields := by
  induction fields using List.reverseRecOn with
  | nil => exact h
  | append_singleton fields g ih =>
    rw [sortFields_concat fields g.1 g.2] at h
    obtain rfl | h := mem_of_mem_insertField h
    . exact List.mem_append_right _ (List.mem_singleton_self g)
    . exact List.mem_append_left _ (ih h)

theorem sortFields_of_areSorted (h : AreSorted fields) : sortFields fields = fields := by
  induction fields using List.reverseRecOn with
  | nil => rfl
  | append_singleton fields f ih =>
    obtain ⟨hfields, -, hlast⟩ := List.pairwise_append.mp h
    rw [sortFields_concat fields f.1 f.2, ih hfields]
    exact insertField_eq_append fun g hg => hlast g hg f (List.mem_singleton_self f)

theorem perm_insertField (h : key ∉ fields.map Prod.fst)
    : (insertField key v fields).Perm ((key, v) :: fields) := by
  fun_induction insertField key v fields with
  | case1 => exact .refl _
  | case2 k w rest hlt => exact .refl _
  | case3 w rest hlt => exact absurd List.mem_cons_self h
  | case4 k w rest hlt hne ih =>
    have hrest : key ∉ rest.map Prod.fst := fun hmem => h (List.mem_cons_of_mem _ hmem)
    exact ((ih hrest).cons (k, w)).trans (.swap (key, v) (k, w) rest)

/-- Fields of different keys are sorted without losing any. -/
theorem perm_sortFields (h : (fields.map Prod.fst).Nodup) : (sortFields fields).Perm fields := by
  induction fields using List.reverseRecOn with
  | nil => exact .refl _
  | append_singleton fields f ih =>
    rw [List.map_append] at h
    obtain ⟨hfields, -, hdisjoint⟩ := List.nodup_append.mp h
    have hperm := ih hfields
    have hkey : f.1 ∉ (sortFields fields).map Prod.fst := by
      intro hmem
      exact hdisjoint f.1 ((hperm.map _).mem_iff.mp hmem) f.1 (List.mem_singleton_self _) rfl
    rw [sortFields_concat fields f.1 f.2]
    apply (perm_insertField hkey).trans
    exact (hperm.cons f).trans (List.perm_append_singleton f fields).symm

end

/-! ### Canonical trees -/

theorem canonicalItems_eq_map (items : List Value)
    : canonicalItems items = items.map canonical := by
  induction items with
  | nil => rfl
  | cons v rest ih => rw [canonicalItems, ih, List.map_cons]

theorem canonicalFields_eq_map (fields : List (String × Value))
    : canonicalFields fields = fields.map fun f => (f.1, f.2.canonical) := by
  induction fields with
  | nil => rfl
  | cons f rest ih => rw [canonicalFields, ih, List.map_cons]

theorem canonicalItems_eq_self {items : List Value} (h : ∀ v ∈ items, v.canonical = v)
    : canonicalItems items = items :=
  calc canonicalItems items
    _ = items.map canonical := canonicalItems_eq_map items
    _ = items.map id := List.map_congr_left h
    _ = items := List.map_id items

theorem canonicalFields_eq_self {fields : List (String × Value)}
    (h : ∀ f ∈ fields, f.2.canonical = f.2)
    : canonicalFields fields = fields :=
  calc canonicalFields fields
    _ = fields.map fun f => (f.1, f.2.canonical) := canonicalFields_eq_map fields
    _ = fields.map id := List.map_congr_left fun f hf => Prod.ext rfl (h f hf)
    _ = fields := List.map_id fields

mutual

theorem canonical_canonical (v : Value) : v.canonical.canonical = v.canonical := by
  cases v with
  | array items =>
    rw [canonical, canonical, canonicalItems_eq_self (canonical_of_mem_items items)]
  | object fields =>
    have hfields : ∀ f ∈ sortFields (canonicalFields fields), f.2.canonical = f.2 := by
      intro f hf
      exact canonical_of_mem_fields fields f (mem_of_mem_sortFields hf)
    rw [canonical, ofFields, canonical, canonicalFields_eq_self hfields, ofFields]
    rw [sortFields_of_areSorted (areSorted_sortFields _)]
  | _ => rfl

theorem canonical_of_mem_items (items : List Value)
    : ∀ v ∈ canonicalItems items, v.canonical = v := by
  cases items with
  | nil => exact fun v h => absurd h List.not_mem_nil
  | cons w rest =>
    intro v h
    obtain rfl | h := List.mem_cons.mp h
    . exact canonical_canonical w
    . exact canonical_of_mem_items rest v h

theorem canonical_of_mem_fields (fields : List (String × Value))
    : ∀ f ∈ canonicalFields fields, f.2.canonical = f.2 := by
  cases fields with
  | nil => exact fun f h => absurd h List.not_mem_nil
  | cons g rest =>
    obtain ⟨key, w⟩ := g
    intro f h
    obtain rfl | h := List.mem_cons.mp h
    . exact canonical_canonical w
    . exact canonical_of_mem_fields rest f h

end

theorem canonical_of_read {s : String} {v : Value} (h : Json.read s = .ok v)
    : v.canonical = v := by
  unfold Json.read at h
  cases hread : Json.readWithin Json.nestingLimit s.toList with
  | error fault =>
    rw [hread] at h
    cases h
  | ok w =>
    rw [hread] at h
    obtain rfl : w.canonical = v := Except.ok.inj h
    exact w.canonical_canonical

end ChatTelemetry.Json.Value
