import ChatTelemetry.Proofs.Trace
import Mathlib.Data.List.Forall2

/-!
This module shows that an emitter which may not record content lets none of it out: what a run of
calls shows then depends on the outline of the calls alone.
-/

namespace ChatTelemetry

namespace Effect

/-- Whether an effect is seen outside of the process: an upload or a request. -/
def leavesProcess : Effect → Bool
  | uploadStarted _ _ _ _ => true
  | requested _ => true
  | _ => false

end Effect

/-! ### Outlines -/

def Chat.Choice.SameOutline (c₁ c₂ : Chat.Choice) : Prop :=
  c₁.finishReason.text = c₂.finishReason.text ∧
    c₁.message.map (·.role.text) = c₂.message.map (·.role.text)

namespace Emission

open Chat (Message Choice)
open Telemetry (Attribute)

def Details.systemCount (d : Details) : Nat :=
  (d.systemInstructions.getD []).length

def Details.userCount (d : Details) : Nat :=
  (d.input.filter (·.role = .user)).length

/--
Operations that may differ in their content, in the id of the response and in the mode, but not in
usage, in the count of prompts and in the finish reasons and roles of choices.
-/
inductive Operation.SameOutline : Operation → Operation → Prop
  | systemPrompt (m₁ m₂ : Message) : SameOutline (.systemPrompt m₁) (.systemPrompt m₂)
  | userPrompt (m₁ m₂ : Message) : SameOutline (.userPrompt m₁) (.userPrompt m₂)
  | choices {output₁ output₂ : List Choice}
    (output : List.Forall₂ Choice.SameOutline output₁ output₂)
    : SameOutline (.choices output₁) (.choices output₂)
  | completion {d₁ d₂ : Details} (usage : d₁.usage = d₂.usage) (mode₁ mode₂ : Mode)
    (responseId₁ responseId₂ : String)
    : SameOutline (.completion d₁ mode₁ responseId₁) (.completion d₂ mode₂ responseId₂)
  | call {d₁ d₂ : Details} (usage : d₁.usage = d₂.usage)
    (system : d₁.systemCount = d₂.systemCount) (users : d₁.userCount = d₂.userCount)
    (responseId₁ responseId₂ : String)
    : SameOutline (.call d₁ responseId₁) (.call d₂ responseId₂)

/-- Calls of the same outline on emitters that may not record content; where these would store
content and in what mode is left open. -/
structure Call.SameOutline (c₁ c₂ : Call) : Prop where
  off₁ : c₁.emitter.capture.messageContent = false
  off₂ : c₂.emitter.capture.messageContent = false
  measures : c₁.emitter.measures = c₂.emitter.measures
  attributes : c₁.attributes = c₂.attributes
  operation : c₁.operation.SameOutline c₂.operation

/-! ### What is shown of an outline -/

theorem length_system (d : Details) : (d.system?.getD []).length = d.systemCount := by
  rw [d.getD_system?, Details.systemCount]

section Off

variable {capture₁ capture₂ : CaptureSettings}
  (hoff₁ : capture₁.messageContent = false) (hoff₂ : capture₂.messageContent = false)

include hoff₁ hoff₂

theorem promptBody_eq_of_off (role : Chat.Role) (m₁ m₂ : Message)
    : promptBody capture₁ role m₁ = promptBody capture₂ role m₂ := by
  simp [promptBody, contentField, hoff₁, hoff₂]

theorem choiceBody_eq_of_off (position : Nat) {c₁ c₂ : Choice} (h : Choice.SameOutline c₁ c₂)
    : choiceBody capture₁ position c₁ = choiceBody capture₂ position c₂ := by
  obtain ⟨reason, role⟩ := h
  unfold choiceBody contentField
  rw [reason, hoff₁, hoff₂]
  cases h₁ : c₁.message with
  | none =>
    cases h₂ : c₂.message with
    | none => rfl
    | some m₂ => simp [h₁, h₂] at role
  | some m₁ =>
    cases h₂ : c₂.message with
    | none => simp [h₁, h₂] at role
    | some m₂ =>
      have : m₁.role.text = m₂.role.text := by
        simpa [h₁, h₂] using role
      simp [this]

end Off

theorem flatMap_eq_of_length_eq {f g : α → List β} (h : ∀ a b, f a = g b) {as bs : List α}
    (hlen : as.length = bs.length)
    : as.flatMap f = bs.flatMap g := by
  induction as generalizing bs with
  | nil =>
    cases bs with
    | nil => rfl
    | cons b bs => simp at hlen
  | cons a as ih =>
    cases bs with
    | nil => simp at hlen
    | cons b bs =>
      rw [List.flatMap_cons, List.flatMap_cons]
      rw [h a b]
      rw [ih (by simpa using hlen)]

namespace Emitter

variable {e₁ e₂ : Emitter}
  (hoff₁ : e₁.capture.messageContent = false) (hoff₂ : e₂.capture.messageContent = false)

include hoff₁ hoff₂

theorem systemPromptEffects_eq_of_off (attributes : List Attribute) (m₁ m₂ : Message)
    : e₁.systemPromptEffects attributes m₁ = e₂.systemPromptEffects attributes m₂ := by
  unfold systemPromptEffects
  rw [promptBody_eq_of_off hoff₁ hoff₂ .system m₁ m₂]

theorem userPromptEffects_eq_of_off (attributes : List Attribute) (m₁ m₂ : Message)
    : e₁.userPromptEffects attributes m₁ = e₂.userPromptEffects attributes m₂ := by
  unfold userPromptEffects
  rw [promptBody_eq_of_off hoff₁ hoff₂ .user m₁ m₂]

theorem choicesEffects_eq_of_off (attributes : List Attribute) {output₁ output₂ : List Choice}
    (h : List.Forall₂ Choice.SameOutline output₁ output₂)
    : e₁.choicesEffects attributes output₁ = e₂.choicesEffects attributes output₂ := by
  unfold choicesEffects
  rw [h.length_eq]
  congr 1
  -- The positions go on counting from a start, so the induction is on all starts.
  generalize 0 = start
  induction h generalizing start with
  | nil => rfl
  | cons hc _ ih =>
    rw [List.zipIdx_cons, List.zipIdx_cons, List.map_cons, List.map_cons]
    dsimp only
    rw [choiceBody_eq_of_off hoff₁ hoff₂ start hc]
    rw [ih]

theorem promptsEffects_eq_of_off (attributes : List Attribute) {d₁ d₂ : Details}
    (system : d₁.systemCount = d₂.systemCount) (users : d₁.userCount = d₂.userCount)
    : e₁.promptsEffects attributes d₁ = e₂.promptsEffects attributes d₂ := by
  unfold promptsEffects
  congr 1
  . apply flatMap_eq_of_length_eq (systemPromptEffects_eq_of_off hoff₁ hoff₂ attributes)
    rw [length_system, length_system, system]
  . apply flatMap_eq_of_length_eq (userPromptEffects_eq_of_off hoff₁ hoff₂ attributes)
    exact users

omit hoff₁ hoff₂ in
theorem measuredEffects_eq_of_usage_eq (measures : e₁.measures = e₂.measures)
    (attributes : List Attribute) {d₁ d₂ : Details} (usage : d₁.usage = d₂.usage)
    : e₁.measuredEffects attributes d₁ = e₂.measuredEffects attributes d₂ := by
  unfold measuredEffects
  rw [measures, usage]

end Emitter

/-! ### Runs -/

def Emitter.bareCompletionEffects (e : Emitter) (attributes : List Attribute) (d : Details)
    : List Effect :=
  e.measuredEffects attributes d ++
    [ .logged (debugLog "recording completion details without content" []),
      .emitted ⟨Telemetry.completionDetailsEvent, attributes, none⟩ ]

def Call.bareEffects (c : Call) : List Effect :=
  match c.operation with
  | .systemPrompt m => c.emitter.systemPromptEffects c.attributes m
  | .userPrompt m => c.emitter.userPromptEffects c.attributes m
  | .choices output => c.emitter.choicesEffects c.attributes output
  | .completion d _ _ => c.emitter.bareCompletionEffects c.attributes d
  | .call d _ => c.emitter.promptsEffects c.attributes d ++
      c.emitter.bareCompletionEffects c.attributes d

theorem Emitter.completion_eq_of_off {w : World} (hw : w.isSuppressed = false) {e : Emitter}
    (hoff : e.capture.messageContent = false) (nested : Call → World → World)
    (attributes : List Attribute) (d : Details) (mode : Mode) (responseId : String)
    : e.completion nested attributes d mode responseId w
        =
      w.recordAll (e.bareCompletionEffects attributes d) := by
  unfold completion bareCompletionEffects measuredEffects
  rw [unlessSuppressed_of_unsuppressed hw]
  cases e.measures with
  | false => simp [hoff, emit, World.record_eq_recordAll, World.log_eq_recordAll]
  | true => simp [hoff, emit, World.record_eq_recordAll, World.log_eq_recordAll]

theorem Call.perform_eq_of_off {c : Call} (hoff : c.emitter.capture.messageContent = false)
    {w : World} (hw : w.isSuppressed = false)
    : c.perform w = w.recordAll c.bareEffects := by
  unfold Call.perform Call.performAt Call.performWith Call.bareEffects
  cases c.operation with
  | systemPrompt m => exact Emitter.systemPrompt_eq hw ..
  | userPrompt m => exact Emitter.userPrompt_eq hw ..
  | choices output => exact Emitter.choices_eq hw ..
  | completion d mode responseId => exact Emitter.completion_eq_of_off hw hoff ..
  | call d responseId =>
    dsimp
    rw [Emitter.call_eq hw]
    rw [Emitter.completion_eq_of_off (by simpa using hw) hoff]
    rw [World.recordAll_recordAll]

theorem Call.bareEffects_eq {c₁ c₂ : Call} (h : c₁.SameOutline c₂)
    : c₁.bareEffects = c₂.bareEffects := by
  rcases c₁ with ⟨e₁, attributes₁, operation₁⟩
  rcases c₂ with ⟨e₂, attributes₂, operation₂⟩
  rcases h with ⟨off₁, off₂, measures, attributes, operation⟩
  dsimp only at off₁ off₂ measures attributes operation
  subst attributes
  cases operation with
  | systemPrompt m₁ m₂ => exact Emitter.systemPromptEffects_eq_of_off off₁ off₂ _ m₁ m₂
  | userPrompt m₁ m₂ => exact Emitter.userPromptEffects_eq_of_off off₁ off₂ _ m₁ m₂
  | choices output => exact Emitter.choicesEffects_eq_of_off off₁ off₂ _ output
  | completion usage =>
    dsimp [Call.bareEffects, Emitter.bareCompletionEffects]
    rw [Emitter.measuredEffects_eq_of_usage_eq measures _ usage]
  | call usage system users =>
    dsimp [Call.bareEffects, Emitter.bareCompletionEffects]
    rw [Emitter.promptsEffects_eq_of_off off₁ off₂ _ system users]
    rw [Emitter.measuredEffects_eq_of_usage_eq measures _ usage]

/-! ### Nothing leaves the process -/

namespace Emitter

theorem leavesProcess_systemPromptEffects (e : Emitter) (attributes : List Attribute) (m : Message)
    : ∀ effect ∈ e.systemPromptEffects attributes m, effect.leavesProcess = false := by
  intro effect h
  simp only [systemPromptEffects, List.mem_cons, List.not_mem_nil, or_false] at h
  rcases h with rfl | rfl <;> rfl

theorem leavesProcess_userPromptEffects (e : Emitter) (attributes : List Attribute) (m : Message)
    : ∀ effect ∈ e.userPromptEffects attributes m, effect.leavesProcess = false := by
  intro effect h
  simp only [userPromptEffects, List.mem_cons, List.not_mem_nil, or_false] at h
  rcases h with rfl | rfl <;> rfl

theorem leavesProcess_choicesEffects (e : Emitter) (attributes : List Attribute)
    (output : List Choice)
    : ∀ effect ∈ e.choicesEffects attributes output, effect.leavesProcess = false := by
  intro effect h
  simp only [choicesEffects, List.mem_cons, List.mem_map] at h
  rcases h with rfl | ⟨_, _, rfl⟩ <;> rfl

theorem leavesProcess_promptsEffects (e : Emitter) (attributes : List Attribute) (d : Details)
    : ∀ effect ∈ e.promptsEffects attributes d, effect.leavesProcess = false := by
  intro effect h
  simp only [promptsEffects, List.mem_append, List.mem_flatMap] at h
  rcases h with ⟨m, _, h⟩ | ⟨m, _, h⟩
  . exact leavesProcess_systemPromptEffects e attributes m effect h
  . exact leavesProcess_userPromptEffects e attributes m effect h

theorem leavesProcess_bareCompletionEffects (e : Emitter) (attributes : List Attribute)
    (d : Details)
    : ∀ effect ∈ e.bareCompletionEffects attributes d, effect.leavesProcess = false := by
  intro effect h
  unfold bareCompletionEffects measuredEffects at h
  cases hm : e.measures with
  | false =>
    simp only [hm, Bool.false_eq_true, ↓reduceIte, List.nil_append, List.mem_cons,
      List.not_mem_nil, or_false] at h
    rcases h with rfl | rfl <;> rfl
  | true =>
    simp only [hm, ↓reduceIte, List.cons_append, List.nil_append, List.mem_cons,
      List.not_mem_nil, or_false] at h
    rcases h with rfl | rfl | rfl <;> rfl

end Emitter

theorem Call.leavesProcess_bareEffects (c : Call)
    : ∀ effect ∈ c.bareEffects, effect.leavesProcess = false := by
  intro effect h
  unfold Call.bareEffects at h
  cases ho : c.operation with
  | systemPrompt m =>
    rw [ho] at h
    exact Emitter.leavesProcess_systemPromptEffects _ _ m effect h
  | userPrompt m =>
    rw [ho] at h
    exact Emitter.leavesProcess_userPromptEffects _ _ m effect h
  | choices output =>
    rw [ho] at h
    exact Emitter.leavesProcess_choicesEffects _ _ output effect h
  | completion d mode responseId =>
    rw [ho] at h
    exact Emitter.leavesProcess_bareCompletionEffects _ _ d effect h
  | call d responseId =>
    rw [ho] at h
    rcases List.mem_append.mp h with h | h
    . exact Emitter.leavesProcess_promptsEffects _ _ d effect h
    . exact Emitter.leavesProcess_bareCompletionEffects _ _ d effect h

/-! ### Two runs -/

theorem Call.perform_of_sameOutline {c₁ c₂ : Call} (h : c₁.SameOutline c₂) {w₁ w₂ : World}
    (hw : w₁.isSuppressed = w₂.isSuppressed)
    : ∃ shown : List Effect,
        c₁.perform w₁ = w₁.recordAll shown ∧
        c₂.perform w₂ = w₂.recordAll shown ∧
        ∀ effect ∈ shown, effect.leavesProcess = false := by
  -- Suppression is the same in both worlds, so either both calls do nothing or both show the same.
  cases hs : w₁.isSuppressed with
  | true =>
    refine ⟨[], ?_, ?_, ?_⟩
    . rw [Call.perform, Call.performAt_of_suppressed 2 c₁ hs]
      simp
    . rw [Call.perform, Call.performAt_of_suppressed 2 c₂ (hw ▸ hs)]
      simp
    . simp
  | false =>
    refine ⟨c₁.bareEffects, ?_, ?_, ?_⟩
    . exact Call.perform_eq_of_off h.off₁ hs
    . rw [Call.bareEffects_eq h]
      exact Call.perform_eq_of_off h.off₂ (hw ▸ hs)
    . exact Call.leavesProcess_bareEffects c₁

/--
Two runs of calls of the same outline, on emitters that may not record content, add the same
effects to their traces: the same events, measurements and log events in the same order. They add no
upload and no request, and everything else in their worlds, the files and the cell of the process
too, stays as it was.
-/
theorem runs_of_sameOutline_show_the_same {calls₁ calls₂ : List Call}
    (h : List.Forall₂ Call.SameOutline calls₁ calls₂) {w₁ w₂ : World}
    (hw : w₁.isSuppressed = w₂.isSuppressed)
    : ∃ shown : List Effect,
        Call.performAll calls₁ w₁ = { w₁ with trace := w₁.trace ++ shown } ∧
        Call.performAll calls₂ w₂ = { w₂ with trace := w₂.trace ++ shown } ∧
        ∀ effect ∈ shown, effect.leavesProcess = false := by
  unfold Call.performAll
  induction h generalizing w₁ w₂ with
  | nil => exact ⟨[], by simp, by simp, by simp⟩
  | cons hc _ ih =>
    obtain ⟨first, hfirst₁, hfirst₂, hinside⟩ := Call.perform_of_sameOutline hc hw
    rw [List.foldl_cons, List.foldl_cons]
    rw [hfirst₁, hfirst₂]
    obtain ⟨later, hlater₁, hlater₂, hlater⟩ :=
      @ih (w₁.recordAll first) (w₂.recordAll first) (by simpa using hw)
    refine ⟨first ++ later, ?_, ?_, ?_⟩
    . rw [hlater₁]
      simp [World.recordAll]
    . rw [hlater₂]
      simp [World.recordAll]
    . intro effect heffect
      rcases List.mem_append.mp heffect with heffect | heffect
      . exact hinside effect heffect
      . exact hlater effect heffect

/-- Two runs that share no text, by emitters that store in different places. -/
theorem runs_without_a_shared_text_show_the_same
    : let call (storage : Storage.Handle) (mode : Mode) (text : String) : Call :=
        ⟨{ storage, capture := { mode } }, [],
          .call { input := [⟨.user, [.text text]⟩] } text⟩
      let choices (text : String) : Call :=
        ⟨{}, [], .choices [⟨.stop, some ⟨.assistant, [.text text]⟩⟩]⟩
      ∃ shown : List Effect,
        Call.performAll [call .global .reference "secret", choices "secret"] .blank
            = { World.blank with trace := shown } ∧
        Call.performAll
            [call (.injected (.filesystem (Text.bytes "/"))) .inlined "", choices ""] .blank
          = { World.blank with trace := shown } ∧
        ∀ effect ∈ shown, effect.leavesProcess = false := by
  intro call choices
  have hcall : ∀ storage₁ storage₂ mode₁ mode₂ text₁ text₂,
      (call storage₁ mode₁ text₁).SameOutline (call storage₂ mode₂ text₂) :=
    fun _ _ _ _ _ _ => ⟨rfl, rfl, rfl, rfl, .call (by rfl) (by rfl) (by rfl) _ _⟩
  have hchoices : ∀ text₁ text₂, (choices text₁).SameOutline (choices text₂) :=
    fun _ _ => ⟨rfl, rfl, rfl, rfl, .choices (.cons ⟨by rfl, by rfl⟩ .nil)⟩
  exact runs_of_sameOutline_show_the_same
    (.cons (hcall ..) (.cons (hchoices ..) .nil)) rfl

end Emission
end ChatTelemetry
