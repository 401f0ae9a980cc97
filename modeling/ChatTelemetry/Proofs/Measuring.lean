import ChatTelemetry.Proofs.Reentrance
import Mathlib.Algebra.GroupWithZero.Nat

/-!
This module shows that each call is measured exactly once, whatever is captured, stored and
suppressed around it.
-/

namespace ChatTelemetry

open Telemetry (Attribute Measurement Usage)

/-! ### Measurements -/

namespace World

def measured (w : World) : List (Usage × List Attribute) :=
  w.trace.filterMap Effect.measured?

/-- All values that have been recorded, in order. -/
def measurements (w : World) : List Measurement :=
  w.measured.flatMap fun p => p.1.measurements p.2

@[simp]
theorem measured_recordAll (w : World) (es : List Effect)
    : (w.recordAll es).measured = w.measured ++ es.filterMap Effect.measured? := by
  simp [measured]

end World

namespace Telemetry

/-- The tokens of a type that a call has used, if that is known. -/
def Usage.tokens? (u : Usage) (type : String) : Option Nat :=
  if type = "input" then u.inputTokens else if type = "output" then u.outputTokens else none

/-- The count of a measurement of tokens whose type, the last attribute, is the given one. -/
def Measurement.tokens? (type : String) : Measurement → Option Nat
  | .duration _ _ => none
  | .tokens count attributes =>
    if attributes.getLast? = some ⟨tokenTypeKey, .text type⟩ then some count else none

theorem Measurement.tokens?_tokensOf (type written : String) (attributes : List Attribute)
    (count : Nat)
    : (tokensOf written attributes count).tokens? type
        =
      if type = written then some count else none := by
  simp [tokensOf, tokens?, eq_comm]

theorem Usage.filterMap_tokens?_measurements (u : Usage) (attributes : List Attribute)
    (type : String)
    : (u.measurements attributes).filterMap (Measurement.tokens? type)
        =
      (u.tokens? type).toList := by
  obtain ⟨duration, input, output⟩ := u
  have hduration :
      Measurement.tokens? type (.duration duration.toDouble attributes) = none := rfl
  unfold measurements tokens?
  rw [List.filterMap_cons, hduration, List.filterMap_append]
  by_cases hinput : type = "input"
  . subst hinput
    cases input <;> cases output <;> simp [Measurement.tokens?_tokensOf]
  . by_cases houtput : type = "output"
    . subst houtput
      cases input <;> cases output <;> simp [Measurement.tokens?_tokensOf]
    . cases input <;> cases output <;> simp [Measurement.tokens?_tokensOf, hinput, houtput]

end Telemetry

namespace Emission

/-! ### One call -/

/-- What is to be measured of a call, if anything is. -/
def Call.usage? (c : Call) : Option Usage :=
  if c.emitter.measures then
    match c.operation with
    | .completion d _ _ | .call d _ => some d.usage
    | _ => none
  else none

/-- The values that a call is to record: its duration, then its tokens as far as they are known. -/
def Call.measurements (c : Call) : List Measurement :=
  match c.usage? with
  | none => []
  | some u =>
    let tokens (type : String) (count : Nat) : Measurement :=
      .tokens count (c.attributes ++ [⟨"gen_ai.token.type", .text type⟩])
    .duration u.duration.toDouble c.attributes ::
      (u.inputTokens.toList.map (tokens "input") ++ u.outputTokens.toList.map (tokens "output"))

def Call.measured? (c : Call) : Option (Usage × List Attribute) :=
  c.usage?.map fun u => (u, c.attributes)

theorem Call.measurements_eq (c : Call)
    : c.measurements = c.measured?.toList.flatMap fun p => p.1.measurements p.2 := by
  unfold measurements measured?
  cases c.usage? with
  | none => rfl
  | some u =>
    obtain ⟨duration, input, output⟩ := u
    cases input <;> cases output <;> rfl

theorem Emitter.filterMap_measured?_measuredEffects (e : Emitter) (attributes : List Attribute)
    (d : Details)
    : (e.measuredEffects attributes d).filterMap Effect.measured?
        =
      if e.measures then [(d.usage, attributes)] else [] := by
  unfold measuredEffects
  cases e.measures <;> rfl

theorem Emitter.filterMap_measured?_promptsEffects (e : Emitter) (attributes : List Attribute)
    (d : Details)
    : (e.promptsEffects attributes d).filterMap Effect.measured? = [] := by
  rw [List.filterMap_eq_nil_iff]
  intro effect heffect
  simp only [promptsEffects, systemPromptEffects, userPromptEffects, List.mem_append,
    List.mem_flatMap, List.mem_cons, List.not_mem_nil, or_false] at heffect
  rcases heffect with ⟨_, _, rfl | rfl⟩ | ⟨_, _, rfl | rfl⟩ <;> rfl

theorem Emitter.filterMap_measured?_choicesEffects (e : Emitter) (attributes : List Attribute)
    (output : List Chat.Choice)
    : (e.choicesEffects attributes output).filterMap Effect.measured? = [] := by
  rw [List.filterMap_eq_nil_iff]
  intro effect heffect
  simp only [choicesEffects, List.mem_cons, List.mem_map] at heffect
  rcases heffect with rfl | ⟨_, _, rfl⟩ <;> rfl

section Nested

variable {nested : Call → World → World}
  (hnested : ∀ c w, w.isSuppressed = true → nested c w = w)

include hnested

theorem measured_storeCollections (h : Storage.Handle) (responseId : String)
    (collections : List (Collection × Json.Value)) (w : World)
    : (storeCollections nested h responseId collections w).2.measured = w.measured := by
  induction collections generalizing w with
  | nil => rfl
  | cons collection rest ih =>
    unfold storeCollections
    rw [Storage.Handle.store_eq hnested]
    dsimp only
    rw [ih]
    unfold World.measured
    rw [List.filterMap_append]
    rw [Storage.Handle.filterMap_storeEffects (fun _ => rfl) (fun _ => rfl)]
    simp [Effect.measured?]

theorem Emitter.measured_completion {w : World} (hw : w.isSuppressed = false) (e : Emitter)
    (attributes : List Attribute) (d : Details) (mode : Mode) (responseId : String)
    : (e.completion nested attributes d mode responseId w).measured
        =
      w.measured ++ if e.measures then [(d.usage, attributes)] else [] := by
  have hmeasured := e.filterMap_measured?_measuredEffects attributes d
  cases hcapture : e.capture.messageContent with
  | false =>
    rw [completion_eq_of_off hw hcapture, World.measured_recordAll, bareCompletionEffects]
    rw [List.filterMap_append, hmeasured]
    simp [Effect.measured?]
  | true =>
    cases mode with
    | inlined =>
      rw [completion_inlined_eq hw hcapture, World.measured_recordAll]
      rw [List.filterMap_append, hmeasured]
      simp [Effect.measured?]
    | reference =>
      rw [completion_reference_eq hw hcapture, World.record_eq_recordAll]
      rw [World.measured_recordAll, measured_storeCollections hnested, World.measured_recordAll]
      rw [List.filterMap_append, hmeasured]
      simp [Effect.measured?]

theorem Call.measured_performWith (c : Call) {w : World} (hw : w.isSuppressed = false)
    : (c.performWith nested w).measured = w.measured ++ c.measured?.toList := by
  obtain ⟨e, attributes, operation⟩ := c
  cases operation with
  | systemPrompt m =>
    have hperform : performWith nested ⟨e, attributes, .systemPrompt m⟩ w = _ :=
      Emitter.systemPrompt_eq hw e attributes m
    rw [hperform, World.measured_recordAll]
    simp [Emitter.systemPromptEffects, Effect.measured?, measured?, usage?]
  | userPrompt m =>
    have hperform : performWith nested ⟨e, attributes, .userPrompt m⟩ w = _ :=
      Emitter.userPrompt_eq hw e attributes m
    rw [hperform, World.measured_recordAll]
    simp [Emitter.userPromptEffects, Effect.measured?, measured?, usage?]
  | choices output =>
    have hperform : performWith nested ⟨e, attributes, .choices output⟩ w = _ :=
      Emitter.choices_eq hw e attributes output
    rw [hperform, World.measured_recordAll, Emitter.filterMap_measured?_choicesEffects]
    simp [measured?, usage?]
  | completion d mode responseId =>
    have hperform := e.measured_completion hnested hw attributes d mode responseId
    unfold performWith
    rw [hperform]
    cases hmeasures : e.measures <;> simp [measured?, usage?, hmeasures]
  | call d responseId =>
    have hbegun := w.isSuppressed_recordAll (e.promptsEffects attributes d)
    have hperform := e.measured_completion hnested (hbegun.trans hw) attributes d e.capture.mode
      responseId
    unfold performWith
    dsimp only
    rw [Emitter.call_eq hw, hperform, World.measured_recordAll]
    rw [Emitter.filterMap_measured?_promptsEffects]
    cases hmeasures : e.measures <;> simp [measured?, usage?, hmeasures]

end Nested

theorem Call.suppression_perform (c : Call) (w : World)
    : (c.perform w).suppression = w.suppression :=
  suppression_performWith (performAt_of_suppressed 1) c w

theorem Call.measured_perform (c : Call) (w : World)
    : (c.perform w).measured
        =
      w.measured ++ if w.isSuppressed then [] else c.measured?.toList := by
  cases hw : w.isSuppressed with
  | true =>
    rw [perform, performAt_of_suppressed 2 c hw]
    simp
  | false => exact c.measured_performWith (performAt_of_suppressed 1) hw

/-! ### Whole runs -/

/-- Something that is done in a process. -/
inductive Activity
  | call (c : Call)
  | taskScope (body : List Activity)
  | threadScope (body : List Activity)
  /-- A change to what calls depend on: files, services, backends, the environment. -/
  | meanwhile (change : World → World)

mutual

def Activity.perform : Activity → World → World
  | .call c, w => c.perform w
  | .taskScope body, w => (w.inTaskScope fun w => ((), performActivities body w)).2
  | .threadScope body, w => (w.inThreadScope fun w => ((), performActivities body w)).2
  | .meanwhile change, w => { change w with suppression := w.suppression, trace := w.trace }

def performActivities : List Activity → World → World
  | [], w => w
  | a :: rest, w => performActivities rest (a.perform w)

end

mutual

/-- The calls that are made outside of suppression, in order. -/
def Activity.calls (suppressed : Bool) : Activity → List Call
  | .call c => if suppressed then [] else [c]
  | .taskScope body => callsOf true body
  | .threadScope body => callsOf true body
  | .meanwhile _ => []

def callsOf (suppressed : Bool) : List Activity → List Call
  | [] => []
  | a :: rest => a.calls suppressed ++ callsOf suppressed rest

end

mutual

theorem Activity.perform_eq (a : Activity) (w : World)
    : (a.perform w).suppression = w.suppression ∧
        (a.perform w).measured
          = w.measured ++ (a.calls w.isSuppressed).filterMap Call.measured? := by
  cases a with
  | call c =>
    refine ⟨c.suppression_perform w, ?_⟩
    rw [Activity.perform, c.measured_perform, Activity.calls]
    cases w.isSuppressed with
    | true => rfl
    | false => cases hc : c.measured? <;> simp [hc]
  | taskScope body =>
    let inside : World := { w with suppression := { w.suppression with task := true } }
    obtain ⟨hsuppression, hmeasured⟩ := performActivities_eq body inside
    have hinside : inside.isSuppressed = true := by
      simp [inside, World.isSuppressed, Suppression.isActive]
    rw [hinside] at hmeasured
    refine ⟨?_, hmeasured⟩
    rw [Activity.perform, World.inTaskScope]
    simp [inside, hsuppression]
  | threadScope body =>
    let inside : World := { w with suppression := { w.suppression with thread := true } }
    obtain ⟨hsuppression, hmeasured⟩ := performActivities_eq body inside
    have hinside : inside.isSuppressed = true := by
      simp [inside, World.isSuppressed, Suppression.isActive]
    rw [hinside] at hmeasured
    refine ⟨?_, hmeasured⟩
    rw [Activity.perform, World.inThreadScope]
    simp [inside, hsuppression]
  | meanwhile change => exact ⟨rfl, (List.append_nil _).symm⟩

theorem performActivities_eq (activities : List Activity) (w : World)
    : (performActivities activities w).suppression = w.suppression ∧
        (performActivities activities w).measured
          = w.measured ++ (callsOf w.isSuppressed activities).filterMap Call.measured? := by
  cases activities with
  | nil => exact ⟨rfl, (List.append_nil _).symm⟩
  | cons a rest =>
    obtain ⟨hsuppression, hmeasured⟩ := a.perform_eq w
    obtain ⟨hsuppression', hmeasured'⟩ := performActivities_eq rest (a.perform w)
    refine ⟨hsuppression'.trans hsuppression, ?_⟩
    rw [performActivities, hmeasured', hmeasured, World.isSuppressed_congr hsuppression, callsOf]
    rw [List.filterMap_append, List.append_assoc]

end

theorem measurements_performActivities (activities : List Activity) (w : World)
    : (performActivities activities w).measurements
        =
      w.measurements ++ (callsOf w.isSuppressed activities).flatMap Call.measurements := by
  have hmeasurements : ∀ calls : List Call,
      (calls.filterMap Call.measured?).flatMap (fun p => p.1.measurements p.2)
        = calls.flatMap Call.measurements := by
    intro calls
    induction calls with
    | nil => rfl
    | cons c calls ih =>
      rw [List.flatMap_cons, ← ih, c.measurements_eq]
      cases hc : c.measured? <;> simp [hc]
  unfold World.measurements
  rw [(performActivities_eq activities w).2, List.flatMap_append, hmeasurements]

def Call.tokens? (type : String) (c : Call) : Option Nat :=
  c.usage?.bind (·.tokens? type)

theorem filterMap_tokens?_measurements (calls : List Call) (type : String)
    : (calls.flatMap Call.measurements).filterMap (Measurement.tokens? type)
        =
      calls.filterMap (Call.tokens? type) := by
  induction calls with
  | nil => rfl
  | cons c calls ih =>
    rw [List.flatMap_cons, List.filterMap_append, ih, c.measurements_eq]
    unfold Call.measured?
    cases husage : c.usage? with
    | none => simp [Call.tokens?, husage]
    | some u =>
      have hcount := u.filterMap_tokens?_measurements c.attributes type
      cases htokens : u.tokens? type <;> simp [Call.tokens?, husage, hcount, htokens]

theorem sum_filterMap (f : α → Option Nat) (as : List α)
    : (as.filterMap f).sum = (as.map fun a => (f a).getD 0).sum := by
  induction as with
  | nil => rfl
  | cons a as ih => cases ha : f a <;> simp [ha, ih]

/--
What is recorded in a run is, call by call, the duration and the known tokens of each completion
that is made outside of suppression, and nothing else. It does not depend on what is captured, on
where content is stored, or on whether that fails. So the counts that are recorded for a type of
tokens, in order, are those that are known of these calls.
-/
theorem every_call_is_measured_once (activities : List Activity) (w : World)
    : let calls := callsOf w.isSuppressed activities
      let recorded := calls.flatMap Call.measurements
      (performActivities activities w).measurements = w.measurements ++ recorded ∧
      ∀ type,
        let counts := recorded.filterMap (Measurement.tokens? type)
        counts = calls.filterMap (Call.tokens? type) ∧
        counts.length = calls.countP (fun c => (c.tokens? type).isSome) ∧
        counts.sum = (calls.map fun c => (c.tokens? type).getD 0).sum := by
  intro calls recorded
  refine ⟨measurements_performActivities activities w, ?_⟩
  intro type counts
  have hcounts : counts = calls.filterMap (Call.tokens? type) :=
    filterMap_tokens?_measurements calls type
  refine ⟨hcounts, ?_, ?_⟩
  . rw [hcounts, List.length_filterMap_eq_countP]
  . rw [hcounts, sum_filterMap]

end Emission
end ChatTelemetry
