import ChatTelemetry.Storage.Cell

/-!
This module shows that a cell is decided at most once, whatever is asked of it and in whatever
order, and that all who ask later get what was decided.
-/

namespace ChatTelemetry.Storage.Cell

/-- What a cell can be asked. -/
inductive Operation
  | set (b : Backend)
  | disable
  | get
  | isDecided
  | resolve (destination : Option String) (options : Options)

/-- The cell that an operation leaves. -/
def Operation.perform (op : Operation) (c : Cell) : Cell :=
  match op with
  | set b => (c.set b).2
  | disable => c.disable.2
  | get | isDecided => c
  | resolve destination options => (c.resolve destination options).cell

def performAll (run : List Operation) (c : Cell) : Cell :=
  run.foldl (fun c op => op.perform c) c

/-- What a run on a new cell has left of it before the operation at this position. -/
def cellAt (run : List Operation) (position : Nat) : Cell :=
  performAll (run.take position) undecided

/-- The operation at this position finds the cell undecided and leaves it decided. -/
def DecidesAt (run : List Operation) (position : Nat) : Prop :=
  (cellAt run position).isDecided = false ∧ (cellAt run (position + 1)).isDecided = true

instance (run : List Operation) (position : Nat) : Decidable (DecidesAt run position) :=
  inferInstanceAs (Decidable (_ ∧ _))

/-- The decided cell that has this backend, or none for good. -/
def decided : Option Backend → Cell
  | some b => ready b
  | none => disabled

@[simp]
theorem isDecided_decided (b : Option Backend) : (decided b).isDecided = true := by
  cases b <;> rfl

@[simp]
theorem get?_decided (b : Option Backend) : (decided b).get? = b := by
  cases b <;> rfl

/-- A cell is undecided, or decided as what it is found to have. -/
theorem eq_undecided_or (c : Cell) : c = undecided ∨ c = decided c.get? := by
  cases c with
  | undecided => exact .inl rfl
  | disabled => exact .inr rfl
  | ready b => exact .inr rfl

/-! ### Single operations -/

section Decided

variable {c : Cell} (h : c.isDecided = true)

include h

theorem eq_decided : c = decided c.get? := by
  obtain rfl | hc := c.eq_undecided_or
  . cases h
  . exact hc

theorem set_of_isDecided (b : Backend) : c.set b = (false, c) := by
  rw [eq_decided h]
  cases c.get? <;> rfl

theorem disable_of_isDecided : c.disable = (false, c) := by
  rw [eq_decided h]
  cases c.get? <;> rfl

theorem resolve_of_isDecided (destination : Option String) (options : Options)
    : c.resolve destination options = ⟨c, c.get?, false, false, []⟩ := by
  rw [eq_decided h]
  cases c.get? <;> rfl

theorem perform_of_isDecided (op : Operation) : op.perform c = c := by
  cases op with
  | set b => exact congrArg Prod.snd (set_of_isDecided h b)
  | disable => exact congrArg Prod.snd (disable_of_isDecided h)
  | get => rfl
  | isDecided => rfl
  | resolve destination options =>
    exact congrArg Lookup.cell (resolve_of_isDecided h destination options)

theorem performAll_of_isDecided (run : List Operation) : performAll run c = c := by
  induction run with
  | nil => rfl
  | cons op run ih =>
    rw [performAll, List.foldl_cons, perform_of_isDecided h]
    exact ih

end Decided

section Undecided

variable {c : Cell} (h : c.isDecided = false)

include h

theorem eq_undecided : c = undecided := by
  obtain hc | hc := c.eq_undecided_or
  . exact hc
  . rw [hc, isDecided_decided] at h
    cases h

theorem get?_of_not_isDecided : c.get? = none := by
  rw [eq_undecided h]
  rfl

theorem set_of_not_isDecided (b : Backend) : c.set b = (true, decided (some b)) := by
  rw [eq_undecided h]
  rfl

theorem disable_of_not_isDecided : c.disable = (true, decided none) := by
  rw [eq_undecided h]
  rfl

theorem resolve_none_of_not_isDecided (options : Options)
    : c.resolve none options = ⟨c, none, true, false, []⟩ := by
  rw [eq_undecided h]
  rfl

theorem resolve_some_of_not_isDecided (destination : String) (options : Options)
    : c.resolve (some destination) options =
        let b := (Backend.ofDestination destination options).toOption
        ⟨decided b, b, true, true, (c.resolve (some destination) options).log⟩ := by
  rw [eq_undecided h]
  cases hb : Backend.ofDestination destination options <;>
    simp [resolve, hb, Except.toOption, decided]

end Undecided

theorem resolve_none (c : Cell) (options : Options)
    : (c.resolve none options).cell = c ∧ (c.resolve none options).backend = c.get? := by
  cases c <;> exact ⟨rfl, rfl⟩

theorem reads_resolve (c : Cell) (destination : Option String) (options : Options)
    : let found := c.resolve destination options
      (found.readDestination, found.readOptions)
        = (!c.isDecided, !c.isDecided && destination.isSome) := by
  cases hc : c.isDecided with
  | true =>
    rw [resolve_of_isDecided hc]
    rfl
  | false =>
    cases destination with
    | none =>
      rw [resolve_none_of_not_isDecided hc]
      rfl
    | some destination =>
      rw [resolve_some_of_not_isDecided hc]
      rfl

/-! ### Runs -/

section Run

variable {run : List Operation} {i j : Nat}

theorem cellAt_succ {op : Operation} (h : run[i]? = some op)
    : cellAt run (i + 1) = op.perform (cellAt run i) := by
  unfold cellAt performAll
  rw [List.take_add_one, h, List.foldl_append]
  rfl

theorem cellAt_succ_of_none (h : run[i]? = none) : cellAt run (i + 1) = cellAt run i := by
  unfold cellAt
  rw [List.take_add_one, h, Option.toList_none, List.append_nil]

theorem cellAt_of_isDecided (h : (cellAt run i).isDecided = true) (hij : i ≤ j)
    : cellAt run j = cellAt run i := by
  obtain ⟨n, rfl⟩ := Nat.exists_eq_add_of_le hij
  rw [cellAt, performAll, List.take_add, List.foldl_append]
  exact performAll_of_isDecided h _

theorem DecidesAt.cellAt_eq (h : DecidesAt run i) (hij : i < j)
    : cellAt run j = decided (cellAt run (i + 1)).get? := by
  rw [cellAt_of_isDecided h.2 hij]
  exact eq_decided h.2

theorem DecidesAt.unique (hi : DecidesAt run i) (hj : DecidesAt run j) : i = j := by
  have hle : ∀ {i j : Nat}, DecidesAt run i → DecidesAt run j → ¬i < j := by
    intro i j hi hj hij
    have hdecided := hj.1
    rw [hi.cellAt_eq hij, isDecided_decided] at hdecided
    cases hdecided
  exact Nat.le_antisymm (Nat.le_of_not_lt (hle hj hi)) (Nat.le_of_not_lt (hle hi hj))

theorem isDecided_cellAt_of_not_decidesAt (h : ∀ k < i, ¬DecidesAt run k)
    : (cellAt run i).isDecided = false := by
  induction i with
  | zero => rfl
  | succ i ih =>
    have hbefore := ih fun k hk => h k (Nat.lt_succ_of_lt hk)
    apply Bool.eq_false_iff.mpr
    intro hafter
    exact h i (Nat.lt_succ_self i) ⟨hbefore, hafter⟩

theorem decidesAt_iff {op : Operation} (h : run[i]? = some op)
    : DecidesAt run i ↔
        (cellAt run i).isDecided = false ∧ (op.perform (cellAt run i)).isDecided = true := by
  unfold DecidesAt
  rw [cellAt_succ h]

theorem set_eq_true_iff {b : Backend} (h : run[i]? = some (.set b))
    : ((cellAt run i).set b).1 = true ↔ DecidesAt run i := by
  rw [decidesAt_iff h, Operation.perform]
  cases hc : (cellAt run i).isDecided with
  | true => simp [set_of_isDecided hc]
  | false => simp [set_of_not_isDecided hc]

theorem disable_eq_true_iff (h : run[i]? = some .disable)
    : (cellAt run i).disable.1 = true ↔ DecidesAt run i := by
  rw [decidesAt_iff h, Operation.perform]
  cases hc : (cellAt run i).isDecided with
  | true => simp [disable_of_isDecided hc]
  | false => simp [disable_of_not_isDecided hc]

theorem not_decidesAt {op : Operation} (h : run[i]? = some op) (hop : ∀ c, op.perform c = c)
    : ¬DecidesAt run i := by
  rw [decidesAt_iff h, hop]
  simp

theorem DecidesAt.get?_cellAt {op : Operation} {b : Option Backend} (h : DecidesAt run i)
    (hop : run[i]? = some op) (hb : op.perform undecided = decided b) (hij : i < j)
    : (cellAt run j).get? = b := by
  rw [h.cellAt_eq hij, get?_decided, cellAt_succ hop, eq_undecided h.1, hb, get?_decided]

theorem perform_resolve (destination : String) (options : Options)
    : (Operation.resolve (some destination) options).perform undecided
        = decided (Backend.ofDestination destination options).toOption :=
  congrArg Lookup.cell (resolve_some_of_not_isDecided rfl destination options)

end Run

/--
At most one operation of a run decides the cell. Before it there is no backend and the cell is
undecided; from it on the cell is decided and all look-ups find what it was decided as. Setting and
closing tell whether they are that operation. A look-up reads its destination if the cell is
undecided and its options if there is a destination then; it leaves the cell undecided if there is
none and otherwise decides it as the backend that was built, or as having none if that failed.
-/
theorem decided_at_most_once (run : List Operation)
    : (∀ i j, DecidesAt run i → DecidesAt run j → i = j) ∧
      (∀ i, (∀ k < i, ¬DecidesAt run k) →
        (cellAt run i).get? = none ∧ (cellAt run i).isDecided = false) ∧
      (∀ k, DecidesAt run k → ∃ b : Option Backend, ∀ i > k,
        (cellAt run i).isDecided = true ∧ (cellAt run i).get? = b ∧
          ∀ destination options, ((cellAt run i).resolve destination options).backend = b) ∧
      ∀ (i : Nat) (op : Operation), run[i]? = some op →
        match op with
        | .set b =>
          (((cellAt run i).set b).1 = true ↔ DecidesAt run i) ∧
          (DecidesAt run i → ∀ j > i, (cellAt run j).get? = some b)
        | .disable =>
          ((cellAt run i).disable.1 = true ↔ DecidesAt run i) ∧
          (DecidesAt run i → ∀ j > i, (cellAt run j).get? = none)
        | .get | .isDecided => ¬DecidesAt run i
        | .resolve destination options =>
          let found := (cellAt run i).resolve destination options
          (found.readDestination = true ↔ (cellAt run i).isDecided = false) ∧
          (found.readOptions = true ↔
            (cellAt run i).isDecided = false ∧ destination.isSome = true) ∧
          ((cellAt run i).isDecided = false →
            match destination with
            | none => (cellAt run (i + 1)).isDecided = false ∧ found.backend = none
            | some destination =>
              let b := (Backend.ofDestination destination options).toOption
              DecidesAt run i ∧ found.backend = b ∧ ∀ j > i, (cellAt run j).get? = b) := by
  refine ⟨fun i j => DecidesAt.unique, ?_, ?_, ?_⟩
  . intro i hbefore
    have hc := isDecided_cellAt_of_not_decidesAt hbefore
    exact ⟨get?_of_not_isDecided hc, hc⟩
  . intro k hk
    refine ⟨(cellAt run (k + 1)).get?, ?_⟩
    intro i hi
    rw [hk.cellAt_eq hi]
    refine ⟨isDecided_decided _, get?_decided _, ?_⟩
    intro destination options
    rw [resolve_of_isDecided (isDecided_decided _), get?_decided]
  . intro i op hop
    cases op with
    | set b => exact ⟨set_eq_true_iff hop, fun h j hj => h.get?_cellAt hop rfl hj⟩
    | disable => exact ⟨disable_eq_true_iff hop, fun h j hj => h.get?_cellAt hop rfl hj⟩
    | get => exact not_decidesAt hop fun c => rfl
    | isDecided => exact not_decidesAt hop fun c => rfl
    | resolve destination options =>
      obtain ⟨hdestination, hoptions⟩ :=
        Prod.mk.inj (reads_resolve (cellAt run i) destination options)
      refine ⟨by simp [hdestination], by simp [hoptions], ?_⟩
      intro hc
      cases destination with
      | none =>
        dsimp only
        rw [cellAt_succ hop, Operation.perform, resolve_none_of_not_isDecided hc]
        exact ⟨hc, rfl⟩
      | some destination =>
        have hperform := perform_resolve destination options
        have hdecides : DecidesAt run i := by
          rw [decidesAt_iff hop, eq_undecided hc, hperform]
          exact ⟨rfl, isDecided_decided _⟩
        refine ⟨hdecides, by rw [resolve_some_of_not_isDecided hc], ?_⟩
        exact fun j hj => hdecides.get?_cellAt hop hperform hj

/-- A look-up without a destination decides nothing, one with a blank destination does. -/
example (b : Backend)
    : cellAt [.resolve none {}, .resolve (some " ") {}, .set b] 3 = disabled := by
  rfl

end ChatTelemetry.Storage.Cell
