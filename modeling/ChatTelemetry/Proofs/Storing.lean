import ChatTelemetry.Proofs.Trace
import ChatTelemetry.Proofs.Siblings
import Mathlib.Data.List.Basic

/-!
This module contains the theory of storing content in a running process: which backend is found,
what it answers and what the world is like afterwards.
-/

namespace ChatTelemetry

namespace Effect

def upload? : Effect → Option (Storage.Backend × String × Json.Value)
  | uploadStarted b name v _ => some (b, name, v)
  | _ => none

end Effect

namespace World

def events (w : World) : List Telemetry.Event :=
  w.trace.filterMap Effect.event?

def uploads (w : World) : List (Storage.Backend × String × Json.Value) :=
  w.trace.filterMap Effect.upload?

@[simp]
theorem events_recordAll (w : World) (es : List Effect)
    : (w.recordAll es).events = w.events ++ es.filterMap Effect.event? := by
  simp [events]

@[simp]
theorem uploads_recordAll (w : World) (es : List Effect)
    : (w.recordAll es).uploads = w.uploads ++ es.filterMap Effect.upload? := by
  simp [uploads]

theorem inTaskScope_eq {w after : World} {f : World → α × World} {a : α}
    (h : f { w with suppression := { w.suppression with task := true } } = (a, after))
    (hafter : after.suppression = { w.suppression with task := true })
    : w.inTaskScope f = (a, { after with suppression := w.suppression }) := by
  unfold inTaskScope
  rw [h]
  simp [hafter]

end World

namespace Storage

open Emission (Call)
open Json (Value)

/-! ### Looking up -/

/-- Looking up settles a cell: looking up again finds the same and has nothing to log. -/
theorem Cell.resolve_settled (c : Cell) (destination : Option String) (options : Options)
    : let found := c.resolve destination options
      (found.cell.resolve destination options).cell = found.cell ∧
      (found.cell.resolve destination options).backend = found.backend ∧
      (found.cell.resolve destination options).log = [] := by
  cases c with
  | undecided =>
    cases destination with
    | none => simp [resolve]
    | some destination =>
      cases h : Backend.ofDestination destination options with
      | error e => simp [resolve, get?, h]
      | ok b => simp [resolve, get?, h]
  | disabled => simp [resolve]
  | ready b => simp [resolve]

namespace Handle

def lookup (h : Handle) (w : World) : Cell.Lookup :=
  match h with
  | injected b => ⟨w.cell, some b, false, false, []⟩
  | global =>
    w.cell.resolve (environmentDestination w.environment) (.ofEnvironment w.environment)

theorem resolve_eq (h : Handle) (w : World)
    : h.resolve w
        =
      ((h.lookup w).backend,
        { w with
          cell := (h.lookup w).cell
          trace := w.trace ++ (h.lookup w).log.map .logged }) := by
  cases h with
  | injected b => simp [resolve, lookup]
  | global => simp [resolve, lookup, globalBackend, World.logAll_eq_recordAll, World.recordAll]

theorem backend_lookup_settled (h : Handle) (w : World) (files : Files) (trace : List Effect)
    : (h.lookup { w with cell := (h.lookup w).cell, files, trace }).backend
        =
      (h.lookup w).backend := by
  cases h with
  | injected b => rfl
  | global => exact (Cell.resolve_settled ..).2.1

end Handle

/-! ### Uploads -/

namespace Backend

/-- What a backend answers to a value stored under a name with telemetry suppressed. -/
def answer (b : Backend) (w : World) (name : String) (v : Value) : Except UploadError String :=
  match b with
  | filesystem base => (Filesystem.upload base name v w.files).result
  | bucket b => (b.upload name v w.network).result
  | custom _ id => (w.customs id).answer name v true

def filesAfter (b : Backend) (w : World) (name : String) (v : Value) : Files :=
  match b with
  | filesystem base => (Filesystem.upload base name v w.files).files
  | _ => w.files

def sideEffects (b : Backend) (w : World) (name : String) (v : Value) : List Effect :=
  match b with
  | filesystem base => (Filesystem.upload base name v w.files).log.map .logged
  | bucket b =>
    let o := b.upload name v w.network
    o.requests.map .requested ++ o.log.map .logged
  | custom _ _ => []

variable {nested : Call → World → World}
  (hnested : ∀ c w, w.isSuppressed = true → nested c w = w)

include hnested

theorem upload_eq {w : World} (hw : w.isSuppressed = true) (b : Backend) (name : String)
    (v : Value)
    : b.upload nested name v w
        =
      (b.answer w name v,
        { w with
          files := b.filesAfter w name v
          trace := w.trace ++ .uploadStarted b name v true :: b.sideEffects w name v }) := by
  cases b with
  | filesystem base =>
    simp [upload, answer, filesAfter, sideEffects, hw, World.record_eq_recordAll,
      World.logAll_eq_recordAll, World.recordAll]
  | bucket b =>
    unfold upload answer filesAfter sideEffects
    simp only [World.foldl_record_eq_recordAll]
    simp [hw, World.logAll_eq_recordAll, World.record_eq_recordAll, World.recordAll]
  | custom label id =>
    have hw' : (w.record (.uploadStarted (custom label id) name v true)).isSuppressed = true := hw
    unfold upload answer filesAfter sideEffects
    rw [hw]
    dsimp only
    rw [hw']
    rw [List.foldl_fixed' (fun c => hnested c _ hw')]
    rfl

omit hnested in
theorem filterMap_sideEffects {f : Effect → Option α} (hlogged : ∀ e, f (.logged e) = none)
    (hrequested : ∀ r, f (.requested r) = none) (b : Backend) (w : World) (name : String)
    (v : Value)
    : (b.sideEffects w name v).filterMap f = [] := by
  rw [List.filterMap_eq_nil_iff]
  intro effect h
  cases b with
  | filesystem base =>
    simp only [sideEffects, List.mem_map] at h
    obtain ⟨e, _, rfl⟩ := h
    exact hlogged e
  | bucket b =>
    simp only [sideEffects, List.mem_append, List.mem_map] at h
    rcases h with ⟨r, _, rfl⟩ | ⟨e, _, rfl⟩
    . exact hrequested r
    . exact hlogged e
  | custom label id => simp [sideEffects] at h

end Backend

/-! ### Storing -/

def locatorOf : Option (Except UploadError String) → String
  | some (.ok locator) => locator
  | _ => discardLocator

namespace Handle

/-- What the backend answers that a handle finds, if it finds one. -/
def answer (h : Handle) (w : World) (name : String) (v : Value)
    : Option (Except UploadError String) :=
  (h.lookup w).backend.map (·.answer w name v)

def filesAfter (h : Handle) (w : World) (name : String) (v : Value) : Files :=
  match (h.lookup w).backend with
  | none => w.files
  | some b => b.filesAfter w name v

def storeEffects (h : Handle) (w : World) (name : String) (v : Value) : List Effect :=
  (h.lookup w).log.map .logged ++
    match (h.lookup w).backend with
    | none =>
      [.logged ⟨.debug, logTarget, "no storage backend, discarding content",
        [("filename", .quoted name)]⟩]
    | some b =>
      .uploadStarted b name v true :: b.sideEffects w name v ++
        match b.answer w name v with
        | .ok _ => []
        | .error e =>
          [.logged ⟨.warn, logTarget, "failed to upload content",
            [("error", .shown e.message), ("backend", .quoted b.name),
              ("filename", .quoted name)]⟩]

theorem store_eq {nested : Call → World → World}
    (hnested : ∀ c w, w.isSuppressed = true → nested c w = w) (h : Handle) (name : String)
    (v : Value) (w : World)
    : h.store nested name v w
        =
      (locatorOf (h.answer w name v),
        { w with
          cell := (h.lookup w).cell
          files := h.filesAfter w name v
          trace := w.trace ++ h.storeEffects w name v }) := by
  unfold store answer filesAfter storeEffects
  rw [resolve_eq]
  cases (h.lookup w).backend with
  | none => simp [locatorOf, World.log_eq_recordAll, World.recordAll]
  | some b =>
    -- What the backend does depends neither on the cell nor on what has been shown so far.
    have hanswer : ∀ cell suppression trace,
        b.answer { w with cell, suppression, trace } name v = b.answer w name v := by
      intros
      cases b <;> rfl
    have hfiles : ∀ cell suppression trace,
        b.filesAfter { w with cell, suppression, trace } name v = b.filesAfter w name v := by
      intros
      cases b <;> rfl
    have heffects : ∀ cell suppression trace,
        b.sideEffects { w with cell, suppression, trace } name v = b.sideEffects w name v := by
      intros
      cases b <;> rfl
    dsimp only [Option.map]
    rw [World.inTaskScope_eq (Backend.upload_eq hnested _ b name v) rfl]
    . rw [hanswer, hfiles, heffects]
      cases b.answer w name v with
      | ok locator => simp [locatorOf]
      | error e => simp [locatorOf, World.log_eq_recordAll, World.recordAll]
    . simp [World.isSuppressed, Suppression.isActive]

theorem lookup_recordAll (h : Handle) (w : World) (es : List Effect)
    : h.lookup (w.recordAll es) = h.lookup w := by
  cases h <;> rfl

theorem answer_recordAll (h : Handle) (w : World) (es : List Effect) (name : String) (v : Value)
    : h.answer (w.recordAll es) name v = h.answer w name v := by
  unfold answer
  rw [lookup_recordAll]
  cases (h.lookup w).backend with
  | none => rfl
  | some b => cases b <;> rfl

/-- Apart from logs and requests, storing shows the start of one upload, if there is a backend. -/
theorem filterMap_storeEffects {f : Effect → Option α} (hlogged : ∀ e, f (.logged e) = none)
    (hrequested : ∀ r, f (.requested r) = none) (h : Handle) (w : World) (name : String)
    (v : Value)
    : (h.storeEffects w name v).filterMap f
        =
      (h.lookup w).backend.toList.filterMap fun b => f (.uploadStarted b name v true) := by
  have hlogs : ∀ es : List Log.Event, (es.map Effect.logged).filterMap f = [] := by
    intro es
    simp [hlogged]
  unfold storeEffects
  rw [List.filterMap_append, hlogs, List.nil_append]
  cases (h.lookup w).backend with
  | none => simp [hlogged]
  | some b =>
    dsimp only
    rw [List.cons_append, List.filterMap_cons, List.filterMap_append]
    rw [Backend.filterMap_sideEffects hlogged hrequested, List.nil_append]
    cases b.answer w name v with
    | ok locator => rfl
    | error e => simp [hlogged, List.filterMap_cons]

theorem events_storeEffects (h : Handle) (w : World) (name : String) (v : Value)
    : (h.storeEffects w name v).filterMap Effect.event? = [] := by
  rw [filterMap_storeEffects (fun _ => rfl) (fun _ => rfl)]
  simp [Effect.event?]

theorem uploads_storeEffects (h : Handle) (w : World) (name : String) (v : Value)
    : (h.storeEffects w name v).filterMap Effect.upload?
        =
      (h.lookup w).backend.toList.map fun b => (b, name, v) := by
  rw [filterMap_storeEffects (fun _ => rfl) (fun _ => rfl)]
  simp [Effect.upload?]

theorem locatorOf_eq_of_ok_iff {r s : Except UploadError String}
    (h : ∀ locator, r = .ok locator ↔ s = .ok locator)
    : locatorOf (some r) = locatorOf (some s) := by
  cases r with
  | ok locator => rw [(h locator).mp rfl]
  | error e =>
    cases s with
    | ok locator => simpa using h locator
    | error e => rfl

/-- Storing something beside an object first changes nothing about where that is stored. -/
theorem locatorOf_answer_beside {n m : String} (hsiblings : AreSiblings n m) (h : Handle)
    (w : World) (v u : Value) (trace : List Effect)
    : locatorOf (h.answer
          { w with cell := (h.lookup w).cell, files := h.filesAfter w m u, trace } n v)
        =
      locatorOf (h.answer w n v) := by
  unfold answer
  rw [backend_lookup_settled]
  unfold filesAfter
  cases (h.lookup w).backend with
  | none => rfl
  | some b =>
    cases b with
    | filesystem base =>
      apply locatorOf_eq_of_ok_iff
      intro locator
      exact Filesystem.upload_beside hsiblings v u
    | bucket b => rfl
    | custom label id => rfl

end Handle
end Storage
end ChatTelemetry
