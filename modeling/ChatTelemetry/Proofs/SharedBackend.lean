import ChatTelemetry.Config.Load
import ChatTelemetry.Proofs.Outcome
import ChatTelemetry.Proofs.Storing
import ChatTelemetry.Proofs.WriteOnce

/-!
This module shows that a process has one backend at most for all its run, and how it comes to have
it: through the program, through a configuration or through its environment.
-/

namespace ChatTelemetry.Process

open Config (Upload)
open Json (Value)
open Storage (Backend Cell Handle Options UploadError)
open Storage (destinationVariable discardLocator environmentDestination locatorOf)

/-- What may happen in a process that has to do with its backend. -/
inductive Step
  | changeEnvironment (env : Environment)
  | setBackend (b : Backend)
  | install (u : Upload)
  | store (name : String) (v : Value)

inductive Answer
  | nothing
  | wasSet (isNew : Bool)
  | wasInstalled (outcome : Except UploadError Bool)
  | wasStored (locator : String)

/-- Whether a backend was put into the cell of the process. -/
def Answer.isSuccess : Answer → Bool
  | wasSet isNew => isNew
  | wasInstalled (.ok isNew) => isNew
  | _ => false

def Step.perform (s : Step) (w : World) : Answer × World :=
  match s with
  | changeEnvironment env => (.nothing, { w with environment := env })
  | setBackend b =>
    let (isNew, cell) := w.cell.set b
    (.wasSet isNew, { w with cell })
  | install u =>
    let (outcome, w) := u.install w
    (.wasInstalled outcome, w)
  | store name v =>
    let (locator, w) := Handle.global.store Emission.Call.perform name v w
    (.wasStored locator, w)

/-- The process before the step at this position. -/
def worldAt (run : List Step) (start : World) (position : Nat) : World :=
  (run.take position).foldl (fun w s => (s.perform w).2) start

def answerAt (run : List Step) (start : World) (position : Nat) : Option Answer :=
  run[position]?.map fun s => (s.perform (worldAt run start position)).1

/-! ### What steps ask of the cell -/

/-- The backend that settings stand for, if they give a destination and one can be built for it. -/
def configured? (u : Upload) (env : Environment) : Option Backend :=
  u.basePath.bind fun basePath => (Backend.ofDestination basePath (u.options env)).toOption

def Step.operation (s : Step) (w : World) : Cell.Operation :=
  match s with
  | changeEnvironment _ => .get
  | setBackend b => .set b
  | install u =>
    match configured? u w.environment with
    | none => .get
    | some b => .set b
  | store _ _ => .resolve (environmentDestination w.environment) (.ofEnvironment w.environment)

/-- The backend that a step has for a process that is without one. -/
def Step.offered? (s : Step) (env : Environment) : Option Backend :=
  match s with
  | changeEnvironment _ => none
  | setBackend b => some b
  | install u => configured? u env
  | store _ _ =>
    (environmentDestination env).bind fun d =>
      (Backend.ofDestination d (.ofEnvironment env)).toOption

theorem install_of_none {u : Upload} {w : World} (h : configured? u w.environment = none)
    : ∃ outcome, u.install w = (outcome, w) ∧ (Answer.wasInstalled outcome).isSuccess = false := by
  cases hpath : u.basePath with
  | none => exact ⟨.ok false, by simp [Upload.install, hpath], rfl⟩
  | some basePath =>
    cases hb : Backend.ofDestination basePath (u.options w.environment) with
    | error e => exact ⟨.error e, by simp [Upload.install, hpath, hb], rfl⟩
    | ok b => simp [configured?, hpath, hb, Except.toOption] at h

theorem install_of_some {u : Upload} {w : World} {b : Backend}
    (h : configured? u w.environment = some b)
    : (u.install w).1 = .ok (w.cell.set b).1 ∧ (u.install w).2.cell = (w.cell.set b).2 := by
  obtain ⟨basePath, hpath, hb⟩ := Option.bind_eq_some_iff.mp h
  rw [Except.toOption_eq_some_iff] at hb
  cases hset : w.cell.set b with
  | mk isNew cell =>
    cases isNew with
    | true => simp [Upload.install, hpath, hb, hset]
    | false => simp [Upload.install, hpath, hb, hset, World.log, World.record]

theorem store_eq (name : String) (v : Value) (w : World)
    : (Step.store name v).perform w
        =
      (.wasStored (locatorOf (Handle.global.answer w name v)),
        { w with
          cell := (Handle.global.lookup w).cell
          files := Handle.global.filesAfter w name v
          trace := w.trace ++ Handle.global.storeEffects w name v }) := by
  rw [Step.perform, Handle.store_eq Emission.Call.perform_of_suppressed]

theorem environmentDestination_eq_none_iff {env : Environment}
    : environmentDestination env = none ↔
        ∀ d, env.get? destinationVariable = some d → Text.trim d.toList = [] := by
  unfold environmentDestination
  simp [Option.filter_eq_none_iff]

theorem cell_perform (s : Step) (w : World)
    : (s.perform w).2.cell = (s.operation w).perform w.cell := by
  cases s with
  | changeEnvironment env => rfl
  | setBackend b => rfl
  | install u =>
    dsimp only [Step.operation]
    cases h : configured? u w.environment with
    | none =>
      obtain ⟨outcome, hinstall, -⟩ := install_of_none h
      rw [Step.perform, hinstall]
      rfl
    | some b => exact (install_of_some h).2
  | store name v =>
    rw [store_eq]
    rfl

theorem lookup_of_blank {w : World}
    (h : ∀ d, w.environment.get? destinationVariable = some d → Text.trim d.toList = [])
    : (Handle.global.lookup w).cell = w.cell ∧
        (Handle.global.lookup w).backend = w.cell.get? := by
  rw [Handle.lookup, environmentDestination_eq_none_iff.mpr h]
  exact Cell.resolve_none _ _

theorem lookup_of_unbuildable {w : World} {d : String} (hundecided : w.cell = .undecided)
    (hd : environmentDestination w.environment = some d)
    (hunbuildable : ¬∃ b, Backend.ofDestination d (.ofEnvironment w.environment) = .ok b)
    : (Handle.global.lookup w).cell = .disabled ∧ (Handle.global.lookup w).backend = none := by
  rw [Handle.lookup, hd, hundecided, Cell.resolve_some_of_not_isDecided rfl,
    Except.toOption_eq_none_iff.mpr hunbuildable]
  exact ⟨rfl, rfl⟩

theorem operation_of_offered {s : Step} {w : World} {b : Backend}
    (h : s.offered? w.environment = some b)
    : (s.operation w).perform .undecided = .ready b := by
  cases s with
  | changeEnvironment env => cases h
  | setBackend b' =>
    obtain rfl : b' = b := Option.some.inj h
    rfl
  | install u =>
    have hconfigured : configured? u w.environment = some b := h
    dsimp only [Step.operation]
    rw [hconfigured]
    rfl
  | store name v =>
    obtain ⟨d, hd, hb⟩ := Option.bind_eq_some_iff.mp h
    rw [Step.operation, hd, Cell.perform_resolve, hb]
    rfl

/-! ### Runs -/

section Run

variable {run : List Step} {start : World} {i j : Nat}

/-- What the steps of a run ask of the cell of the process. -/
def operations (run : List Step) (start : World) : List Cell.Operation :=
  run.zipIdx.map fun (s, position) => s.operation (worldAt run start position)

theorem getElem?_operations (run : List Step) (start : World) (i : Nat)
    : (operations run start)[i]? = run[i]?.map fun s => s.operation (worldAt run start i) := by
  unfold operations
  rw [List.getElem?_map, List.getElem?_zipIdx, Option.map_map, Nat.zero_add]
  rfl

theorem worldAt_succ {s : Step} (h : run[i]? = some s)
    : worldAt run start (i + 1) = (s.perform (worldAt run start i)).2 := by
  unfold worldAt
  rw [List.take_add_one, h, List.foldl_append]
  rfl

theorem worldAt_succ_of_none (h : run[i]? = none)
    : worldAt run start (i + 1) = worldAt run start i := by
  unfold worldAt
  rw [List.take_add_one, h, Option.toList_none, List.append_nil]

theorem operations_of_some {s : Step} (h : run[i]? = some s)
    : (operations run start)[i]? = some (s.operation (worldAt run start i)) := by
  rw [getElem?_operations, h, Option.map_some]

theorem answerAt_of_some {s : Step} (h : run[i]? = some s)
    : answerAt run start i = some (s.perform (worldAt run start i)).1 := by
  rw [answerAt, h, Option.map_some]

/-- The cell of a process goes the way of a cell that is asked the same. -/
theorem cell_worldAt (hstart : start.cell = .undecided) (i : Nat)
    : (worldAt run start i).cell = Cell.cellAt (operations run start) i := by
  induction i with
  | zero => exact hstart
  | succ i ih =>
    cases h : run[i]? with
    | none =>
      have hop : (operations run start)[i]? = none := by
        rw [getElem?_operations, h, Option.map_none]
      rw [worldAt_succ_of_none h, Cell.cellAt_succ_of_none hop, ih]
    | some s =>
      rw [worldAt_succ h, Cell.cellAt_succ (operations_of_some h), cell_perform, ih]

theorem cell_worldAt_of_isDecided (hstart : start.cell = .undecided)
    (h : (worldAt run start i).cell.isDecided = true) (hij : i ≤ j)
    : (worldAt run start j).cell = (worldAt run start i).cell := by
  rw [cell_worldAt hstart] at h
  rw [cell_worldAt hstart, cell_worldAt hstart, Cell.cellAt_of_isDecided h hij]

theorem decidesAt_of_set (hstart : start.cell = .undecided) {b : Backend}
    (hop : (operations run start)[i]? = some (.set b))
    (hset : ((worldAt run start i).cell.set b).1 = true)
    : Cell.DecidesAt (operations run start) i := by
  rw [cell_worldAt hstart] at hset
  exact (Cell.set_eq_true_iff hop).mp hset

theorem decidesAt_of_isSuccess (hstart : start.cell = .undecided) {a : Answer}
    (ha : answerAt run start i = some a) (hsuccess : a.isSuccess = true)
    : Cell.DecidesAt (operations run start) i := by
  obtain ⟨s, hs, rfl⟩ := Option.map_eq_some_iff.mp ha
  have hop : (operations run start)[i]? = _ := operations_of_some hs
  cases s with
  | changeEnvironment env => cases hsuccess
  | setBackend b => exact decidesAt_of_set hstart hop hsuccess
  | install u =>
    dsimp only [Step.operation] at hop
    cases h : configured? u (worldAt run start i).environment with
    | none =>
      obtain ⟨outcome, hinstall, hfailed⟩ := install_of_none h
      rw [Step.perform, hinstall, hfailed] at hsuccess
      cases hsuccess
    | some b =>
      rw [h] at hop
      dsimp only [Step.perform] at hsuccess
      rw [(install_of_some h).1] at hsuccess
      exact decidesAt_of_set hstart hop hsuccess
  | store name v => cases hsuccess

theorem answerAt_store {name : String} {v : Value} (h : run[i]? = some (.store name v))
    : let w := worldAt run start i
      answerAt run start i
        = some (.wasStored (locatorOf
            ((Handle.global.lookup w).backend.map (·.answer w name v)))) := by
  intro w
  rw [answerAt_of_some h, store_eq]
  rfl

theorem uploads_store {name : String} {v : Value} (h : run[i]? = some (.store name v))
    : let w := worldAt run start i
      (worldAt run start (i + 1)).uploads
        = w.uploads ++ (Handle.global.lookup w).backend.toList.map fun b => (b, name, v) := by
  intro w
  rw [worldAt_succ h, store_eq, ← Handle.uploads_storeEffects]
  exact List.filterMap_append

end Run

/-- What holds of a run that begins while the backend of the process is undecided. -/
structure HasOneBackend (run : List Step) (start : World) : Prop where
  /-- Installing what has no destination, or one that no backend is built for, changes nothing. -/
  install_of_unusable : ∀ i u, run[i]? = some (.install u) →
    (u.basePath = none ∨ ∃ e, answerAt run start i = some (.wasInstalled (.error e))) →
      worldAt run start (i + 1) = worldAt run start i
  /-- As long as nothing has been decided, every step can. -/
  decided_by_any : ∀ i s b, run[i]? = some s → (worldAt run start i).cell = .undecided →
    s.offered? (worldAt run start i).environment = some b →
      (worldAt run start (i + 1)).cell = .ready b
  /-- Storing without a destination in the environment decides nothing. -/
  store_of_blank : ∀ i name v, run[i]? = some (.store name v) →
    (∀ d, (worldAt run start i).environment.get? destinationVariable = some d →
      Text.trim d.toList = []) →
      (worldAt run start (i + 1)).cell = (worldAt run start i).cell ∧
      ((worldAt run start i).cell.get? = none →
        answerAt run start i = some (.wasStored discardLocator))
  store_of_unbuildable : ∀ i name v d, run[i]? = some (.store name v) →
    (worldAt run start i).cell = .undecided →
    environmentDestination (worldAt run start i).environment = some d →
    (¬∃ b, Backend.ofDestination d (.ofEnvironment (worldAt run start i).environment) = .ok b) →
      answerAt run start i = some (.wasStored discardLocator) ∧
      ∀ j > i, (worldAt run start j).cell = .disabled
  one_success : ∀ i j a b, answerAt run start i = some a → a.isSuccess = true →
    answerAt run start j = some b → b.isSuccess = true → i = j
  decided_for_good : ∀ i j, i ≤ j → (worldAt run start i).cell.isDecided = true →
    (worldAt run start j).cell = (worldAt run start i).cell ∧
    ∀ name v, run[j]? = some (.store name v) →
      let b := (worldAt run start i).cell.get?
      answerAt run start j
        = some (.wasStored (locatorOf (b.map (·.answer (worldAt run start j) name v)))) ∧
      (worldAt run start (j + 1)).uploads
        = (worldAt run start j).uploads ++ b.toList.map fun b => (b, name, v)

/--
However a run mixes settings, configurations and stored content, and whatever becomes of the
environment meanwhile, it has one backend at most, and that from the step on that decided it.
-/
theorem one_backend {start : World} (hstart : start.cell = .undecided) (run : List Step)
    : HasOneBackend run start where
  install_of_unusable i u hs hunusable := by
    rw [worldAt_succ hs]
    cases h : configured? u (worldAt run start i).environment with
    | none =>
      obtain ⟨outcome, hinstall, -⟩ := install_of_none h
      rw [Step.perform, hinstall]
    | some b =>
      obtain hpath | ⟨e, he⟩ := hunusable
      . simp [configured?, hpath] at h
      . rw [answerAt_of_some hs] at he
        dsimp only [Step.perform] at he
        rw [(install_of_some h).1] at he
        cases he
  decided_by_any i s b hs hundecided hoffered := by
    rw [worldAt_succ hs, cell_perform, hundecided]
    exact operation_of_offered hoffered
  store_of_blank i name v hs hblank := by
    have hlookup := lookup_of_blank hblank
    constructor
    . rw [worldAt_succ hs, store_eq]
      exact hlookup.1
    . intro hnone
      rw [answerAt_store hs, hlookup.2, hnone]
      rfl
  store_of_unbuildable i name v d hs hundecided hd hunbuildable := by
    have hlookup := lookup_of_unbuildable hundecided hd hunbuildable
    refine ⟨?_, ?_⟩
    . rw [answerAt_store hs, hlookup.2]
      rfl
    . intro j hj
      have hdisabled : (worldAt run start (i + 1)).cell = .disabled := by
        rw [worldAt_succ hs, store_eq]
        exact hlookup.1
      rw [cell_worldAt_of_isDecided hstart (by rw [hdisabled]; rfl) hj, hdisabled]
  one_success i j a b ha hasuccess hb hbsuccess :=
    (decidesAt_of_isSuccess hstart ha hasuccess).unique (decidesAt_of_isSuccess hstart hb hbsuccess)
  decided_for_good i j hij hdecided := by
    have hcell := cell_worldAt_of_isDecided hstart hdecided hij
    refine ⟨hcell, ?_⟩
    intro name v hs b
    have hbackend : (Handle.global.lookup (worldAt run start j)).backend = b := by
      rw [Handle.lookup, hcell, Cell.resolve_of_isDecided hdecided]
    exact ⟨by rw [answerAt_store hs, hbackend], by rw [uploads_store hs, hbackend]⟩

/-- A destination of no known scheme in the environment, looked up before a backend is set. -/
theorem one_backend_of_unknown_scheme
    : let start := World.blank
      let run : List Step :=
        [ .install {}, .changeEnvironment [(destinationVariable, "ftp://host/x")],
          .store "a" .null, .setBackend (.filesystem (Text.bytes "/d")), .changeEnvironment [],
          .store "b" .null ]
      (worldAt run start 1).cell = .undecided ∧
      (∀ j > 2, (worldAt run start j).cell = .disabled) ∧
      answerAt run start 3 = some (.wasSet false) ∧
      answerAt run start 5 = some (.wasStored discardLocator) := by
  intro start run
  have h : HasOneBackend run start := one_backend rfl run
  have hunbuildable : ¬∃ b, Backend.ofDestination "ftp://host/x"
      (.ofEnvironment [(destinationVariable, "ftp://host/x")]) = .ok b := by
    apply Except.toOption_eq_none_iff.mp
    decide +kernel
  have hdisabled : ∀ j > 2, (worldAt run start j).cell = .disabled :=
    (h.store_of_unbuildable 2 "a" .null "ftp://host/x" rfl rfl (by decide) hunbuildable).2
  refine ⟨?_, hdisabled, ?_, ?_⟩
  . rw [h.install_of_unusable 0 {} rfl (.inl rfl)]
    rfl
  . rw [answerAt_of_some rfl, Step.perform, hdisabled 3 (by decide)]
    rfl
  . have hlast := h.decided_for_good 5 5 (Nat.le_refl 5) (by rw [hdisabled 5 (by decide)]; rfl)
    rw [(hlast.2 "b" .null rfl).1, hdisabled 5 (by decide)]
    rfl

end ChatTelemetry.Process
