import ChatTelemetry.Telemetry.Record
import Mathlib.Data.List.Basic

/-!
This module shows what a tree loses as the body of a log record: its nulls, at every depth, and
nothing else, as long as its integers fit into a record.
-/

namespace ChatTelemetry

namespace Json.Value

/-! ### Trees without nulls -/

def isNull : Value → Bool
  | .null => true
  | _ => false

mutual

/-- The tree without the fields and elements that are null, at every depth. -/
def pruned : Value → Value
  | .array items => .array (prunedItems items)
  | .object fields => .object (prunedFields fields)
  | v => v

def prunedItems : List Value → List Value
  | [] => []
  | v :: rest => if v.isNull then prunedItems rest else pruned v :: prunedItems rest

def prunedFields : List (String × Value) → List (String × Value)
  | [] => []
  | (key, v) :: rest =>
    if v.isNull then prunedFields rest else (key, pruned v) :: prunedFields rest

end

mutual

/-- Whether no integer in the tree is too large for a log record. -/
def integersFit : Value → Bool
  | .int n => n ≤ Telemetry.AnyValue.maxInt
  | .array items => itemsFit items
  | .object fields => fieldsFit fields
  | _ => true

def itemsFit : List Value → Bool
  | [] => true
  | v :: rest => integersFit v && itemsFit rest

def fieldsFit : List (String × Value) → Bool
  | [] => true
  | (_, v) :: rest => integersFit v && fieldsFit rest

end

end Json.Value

namespace Telemetry

open Json (Value)

namespace AnyValue

theorem ofJson?_eq_none_iff {v : Value} : ofJson? v = none ↔ v = .null := by
  cases v <;> simp [ofJson?]

theorem isNull_eq_isNone (v : Value) : v.isNull = (ofJson? v).isNone := by
  cases v <;> rfl

theorem ofItems_eq_filterMap (items : List Value) : ofItems items = items.filterMap ofJson? := by
  induction items with
  | nil => rfl
  | cons v rest ih =>
    rw [ofItems, List.filterMap_cons, ih]
    cases ofJson? v <;> rfl

theorem ofFields_eq_filterMap (fields : List (String × Value))
    : ofFields fields = fields.filterMap fun f => (ofJson? f.2).map fun a => (f.1, a) := by
  induction fields with
  | nil => rfl
  | cons f rest ih =>
    rw [ofFields, List.filterMap_cons, ih]
    cases ofJson? f.2 <;> rfl

/-! ### Nulls do not matter -/

mutual

theorem ofJson?_pruned (v : Value) : ofJson? v.pruned = ofJson? v := by
  cases v with
  | array items => rw [Value.pruned, ofJson?, ofJson?, ofItems_pruned items]
  | object fields => rw [Value.pruned, ofJson?, ofJson?, ofFields_pruned fields]
  | _ => rfl

theorem ofItems_pruned (items : List Value)
    : ofItems (Value.prunedItems items) = ofItems items := by
  cases items with
  | nil => rfl
  | cons v rest =>
    rw [Value.prunedItems, isNull_eq_isNone, ofItems]
    have hv := ofJson?_pruned v
    have hrest := ofItems_pruned rest
    cases h : ofJson? v with
    | none => exact hrest
    | some a => simp [ofItems, hv, h, hrest]

theorem ofFields_pruned (fields : List (String × Value))
    : ofFields (Value.prunedFields fields) = ofFields fields := by
  cases fields with
  | nil => rfl
  | cons f rest =>
    obtain ⟨key, v⟩ := f
    rw [Value.prunedFields, isNull_eq_isNone, ofFields]
    have hv := ofJson?_pruned v
    have hrest := ofFields_pruned rest
    cases h : ofJson? v with
    | none => exact hrest
    | some a => simp [ofFields, hv, h, hrest]

end

/-! ### All else can be told from the value -/

mutual

/-- The tree that a value of a log record comes from, nulls left out. -/
def toJson : AnyValue → Value
  | .int n => .int n
  | .double x => .double x
  | .text s => .string s
  | .bool b => .bool b
  | .list items => .array (toItems items)
  | .map fields => .object (toFields fields)

def toItems : List AnyValue → List Value
  | [] => []
  | a :: rest => toJson a :: toItems rest

def toFields : List (String × AnyValue) → List (String × Value)
  | [] => []
  | (key, a) :: rest => (key, toJson a) :: toFields rest

end

mutual

theorem toJson_of_ofJson? {v : Value} {a : AnyValue} (hfit : v.integersFit = true)
    (h : ofJson? v = some a)
    : toJson a = v.pruned := by
  cases v with
  | null => contradiction
  | int n =>
    have hn : n ≤ maxInt := by simpa [Value.integersFit] using hfit
    rw [ofJson?, if_pos hn] at h
    cases h
    rfl
  | array items =>
    cases h
    rw [toJson, Value.pruned, toItems_ofItems items hfit]
  | object fields =>
    cases h
    rw [toJson, Value.pruned, toFields_ofFields fields hfit]
  | _ =>
    cases h
    rfl

theorem toItems_ofItems (items : List Value) (hfit : Value.itemsFit items = true)
    : toItems (ofItems items) = Value.prunedItems items := by
  cases items with
  | nil => rfl
  | cons v rest =>
    obtain ⟨hv, hrest⟩ := Bool.and_eq_true_iff.mp hfit
    have hrest := toItems_ofItems rest hrest
    rw [ofItems, Value.prunedItems, isNull_eq_isNone]
    cases h : ofJson? v with
    | none => exact hrest
    | some a => simp [toItems, toJson_of_ofJson? hv h, hrest]

theorem toFields_ofFields (fields : List (String × Value)) (hfit : Value.fieldsFit fields = true)
    : toFields (ofFields fields) = Value.prunedFields fields := by
  cases fields with
  | nil => rfl
  | cons f rest =>
    obtain ⟨key, v⟩ := f
    obtain ⟨hv, hrest⟩ := Bool.and_eq_true_iff.mp hfit
    have hrest := toFields_ofFields rest hrest
    rw [ofFields, Value.prunedFields, isNull_eq_isNone]
    cases h : ofJson? v with
    | none => exact hrest
    | some a => simp [toFields, toJson_of_ofJson? hv h, hrest]

end

theorem ofJson?_eq_iff {v w : Value} (hv : v.integersFit = true) (hw : w.integersFit = true)
    : ofJson? v = ofJson? w ↔ v.pruned = w.pruned := by
  constructor
  . intro h
    cases ha : ofJson? w with
    | none =>
      rw [ofJson?_eq_none_iff.mp (h.trans ha), ofJson?_eq_none_iff.mp ha]
    | some a =>
      rw [← toJson_of_ofJson? hv (h.trans ha), ← toJson_of_ofJson? hw ha]
  . intro h
    rw [← ofJson?_pruned v, ← ofJson?_pruned w, h]

theorem ofJson?_eq_int_iff {v : Value} (hv : v.integersFit = true) {n : Int}
    : ofJson? v = some (.int n) ↔ v = .int n := by
  cases v with
  | int m =>
    have hm : m ≤ maxInt := by simpa [Value.integersFit] using hv
    simp [ofJson?, hm]
  | _ => simp [ofJson?]

theorem ofJson?_eq_double_iff {v : Value} (hv : v.integersFit = true) {x : Double}
    : ofJson? v = some (.double x) ↔ v = .double x := by
  cases v with
  | int m =>
    have hm : m ≤ maxInt := by simpa [Value.integersFit] using hv
    simp [ofJson?, hm]
  | _ => simp [ofJson?]

theorem ofJson?_eq_list_nil_iff {v : Value}
    : ofJson? v = some (.list []) ↔ ∃ items, v = .array items ∧ ∀ w ∈ items, w = .null := by
  cases v with
  | array items =>
    simp [ofJson?, ofItems_eq_filterMap, List.filterMap_eq_nil_iff, ofJson?_eq_none_iff]
  | int n =>
    rw [ofJson?]
    split <;> simp
  | _ => simp [ofJson?]

theorem ofJson?_eq_map_nil_iff {v : Value}
    : ofJson? v = some (.map []) ↔ ∃ fields, v = .object fields ∧ ∀ f ∈ fields, f.2 = .null := by
  cases v with
  | object fields =>
    simp [ofJson?, ofFields_eq_filterMap, List.filterMap_eq_nil_iff, ofJson?_eq_none_iff]
  | int n =>
    rw [ofJson?]
    split <;> simp
  | _ => simp [ofJson?]

/--
As the body of a log record a tree loses its nulls, at every depth, and nothing else. Only null
itself is no body; what has nothing left is an empty list or map.
-/
theorem log_body_loses_exactly_nulls {v w : Value} (hv : v.integersFit = true)
    (hw : w.integersFit = true)
    : (ofJson? v = ofJson? w ↔ v.pruned = w.pruned)
        ∧ (ofJson? v = none ↔ v = .null)
        ∧ (∀ e : Event, e.toRecord.body = none ↔ e.body = none ∨ e.body = some .null)
        ∧ (∀ items, ofJson? (.array items) = some (.list (items.filterMap ofJson?)))
        ∧ (∀ n, ofJson? v = some (.int n) ↔ v = .int n)
        ∧ (∀ x, ofJson? v = some (.double x) ↔ v = .double x)
        ∧ (ofJson? v = some (.list []) ↔ ∃ items, v = .array items ∧ ∀ u ∈ items, u = .null)
        ∧ (ofJson? v = some (.map []) ↔
            ∃ fields, v = .object fields ∧ ∀ f ∈ fields, f.2 = .null) := by
  refine ⟨ofJson?_eq_iff hv hw, ofJson?_eq_none_iff, ?_, ?_, ?_, ?_, ofJson?_eq_list_nil_iff,
    ofJson?_eq_map_nil_iff⟩
  . intro e
    cases h : e.body with
    | none => simp [Event.toRecord, h]
    | some body => simp [Event.toRecord, h, ofJson?_eq_none_iff]
  . intro items
    rw [ofJson?, ofItems_eq_filterMap]
  . exact fun n => ofJson?_eq_int_iff hv
  . exact fun x => ofJson?_eq_double_iff hv

theorem log_body_loses_exactly_nulls_of_nested_nulls
    : let v : Value := .object
        [("a", .array [.null, .int 1, .object [("b", .null)]]), ("c", .null), ("d", .double .zero)]
      let w : Value := .object [("a", .array [.int 1, .null, .object []]), ("d", .double .zero)]
      v.integersFit = true ∧ w.integersFit = true
        ∧ v.pruned = w.pruned
        ∧ ofJson? v = ofJson? w
        ∧ ofJson? v ≠ none := by
  intro v w
  have hv : v.integersFit = true := by decide
  have hw : w.integersFit = true := by decide
  have hpruned : v.pruned = w.pruned := rfl
  obtain ⟨hsame, hnone, -⟩ := log_body_loses_exactly_nulls hv hw
  exact ⟨hv, hw, hpruned, hsame.mpr hpruned, fun h => Value.noConfusion (hnone.mp h)⟩

end AnyValue

end Telemetry
end ChatTelemetry
