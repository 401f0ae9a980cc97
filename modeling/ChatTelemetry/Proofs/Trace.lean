import ChatTelemetry.Emission.Emit

/-!
This module contains the theory of what emitters add to the trace of a world. An operation that
stores nothing adds effects to the trace and leaves the rest of the world alone.
-/

namespace ChatTelemetry

namespace World

/-- A process that has done nothing yet, without files, network or backends. -/
def blank : World where
  environment := []
  files := ⟨[], []⟩
  network := .silent
  customs := fun _ => ⟨fun _ _ _ => [], fun _ _ _ => .error (.transport "")⟩
  cell := .undecided
  suppression := .none
  trace := []

def recordAll (w : World) (es : List Effect) : World :=
  { w with trace := w.trace ++ es }

@[simp]
theorem recordAll_nil (w : World) : w.recordAll [] = w := by
  simp [recordAll]

@[simp]
theorem recordAll_recordAll (w : World) (es fs : List Effect)
    : (w.recordAll es).recordAll fs = w.recordAll (es ++ fs) := by
  simp [recordAll]

@[simp]
theorem trace_recordAll (w : World) (es : List Effect)
    : (w.recordAll es).trace = w.trace ++ es := by
  rfl

@[simp]
theorem isSuppressed_recordAll (w : World) (es : List Effect)
    : (w.recordAll es).isSuppressed = w.isSuppressed := by
  rfl

theorem isSuppressed_congr {w after : World} (h : after.suppression = w.suppression)
    : after.isSuppressed = w.isSuppressed := by
  unfold isSuppressed
  rw [h]

theorem record_eq_recordAll (w : World) (e : Effect) : w.record e = w.recordAll [e] := by
  rfl

theorem log_eq_recordAll (w : World) (e : Log.Event) : w.log e = w.recordAll [.logged e] := by
  rfl

theorem foldl_record_eq_recordAll (f : α → Effect) (as : List α) (w : World)
    : as.foldl (fun w a => w.record (f a)) w = w.recordAll (as.map f) := by
  induction as generalizing w with
  | nil => simp
  | cons a as ih =>
    rw [List.foldl_cons]
    rw [ih]
    simp [record_eq_recordAll]

theorem logAll_eq_recordAll (w : World) (es : List Log.Event)
    : w.logAll es = w.recordAll (es.map .logged) :=
  foldl_record_eq_recordAll .logged es w

theorem foldl_eq_recordAll {f : World → α → World} {g : α → List Effect}
    (h : ∀ w a, w.isSuppressed = false → f w a = w.recordAll (g a)) (as : List α) (w : World)
    (hw : w.isSuppressed = false)
    : as.foldl f w = w.recordAll (as.flatMap g) := by
  induction as generalizing w with
  | nil => simp
  | cons a as ih =>
    rw [List.foldl_cons]
    rw [h w a hw]
    rw [ih]
    . simp
    . simpa using hw

end World

namespace Emission

open Chat (Message Choice)
open Telemetry (Attribute)

/-- Only an empty list of system instructions is left out, of which there is nothing to show. -/
theorem Details.getD_system? (d : Details)
    : d.system?.getD [] = d.systemInstructions.getD [] := by
  unfold system?
  cases d.systemInstructions with
  | none => rfl
  | some messages =>
    cases messages with
    | nil => rfl
    | cons m messages => rfl

namespace Emitter

theorem unlessSuppressed_of_suppressed {w : World} (hw : w.isSuppressed = true)
    (f : World → World)
    : unlessSuppressed w f = w := by
  simp [unlessSuppressed, hw]

theorem unlessSuppressed_of_unsuppressed {w : World} (hw : w.isSuppressed = false)
    (f : World → World)
    : unlessSuppressed w f = f w := by
  simp [unlessSuppressed, hw]

def systemPromptEffects (e : Emitter) (attributes : List Attribute) (m : Message)
    : List Effect :=
  [ .logged (debugLog "recording system prompt" []),
    .emitted ⟨Telemetry.systemMessageEvent, attributes, some (promptBody e.capture .system m)⟩ ]

def userPromptEffects (e : Emitter) (attributes : List Attribute) (m : Message) : List Effect :=
  [ .logged (debugLog "recording user prompt" []),
    .emitted ⟨Telemetry.userMessageEvent, attributes, some (promptBody e.capture .user m)⟩ ]

def choicesEffects (e : Emitter) (attributes : List Attribute) (output : List Choice)
    : List Effect :=
  .logged (debugLog "recording response choices" [("choices", .count output.length)]) ::
    output.zipIdx.map fun (c, position) =>
      .emitted ⟨Telemetry.choiceEvent, attributes, some (choiceBody e.capture position c)⟩

/-- What a whole call shows before its completion. -/
def promptsEffects (e : Emitter) (attributes : List Attribute) (d : Details) : List Effect :=
  (d.system?.getD []).flatMap (e.systemPromptEffects attributes) ++
    (d.input.filter (·.role = .user)).flatMap (e.userPromptEffects attributes)

def measuredEffects (e : Emitter) (attributes : List Attribute) (d : Details) : List Effect :=
  if e.measures then [.measured d.usage attributes] else []

variable {w : World} (hw : w.isSuppressed = false)

include hw

theorem systemPrompt_eq (e : Emitter) (attributes : List Attribute) (m : Message)
    : e.systemPrompt attributes m w = w.recordAll (e.systemPromptEffects attributes m) := by
  unfold systemPrompt
  rw [unlessSuppressed_of_unsuppressed hw]
  simp [emit, systemPromptEffects, World.record_eq_recordAll, World.log_eq_recordAll]

theorem userPrompt_eq (e : Emitter) (attributes : List Attribute) (m : Message)
    : e.userPrompt attributes m w = w.recordAll (e.userPromptEffects attributes m) := by
  unfold userPrompt
  rw [unlessSuppressed_of_unsuppressed hw]
  simp [emit, userPromptEffects, World.record_eq_recordAll, World.log_eq_recordAll]

theorem choices_eq (e : Emitter) (attributes : List Attribute) (output : List Choice)
    : e.choices attributes output w = w.recordAll (e.choicesEffects attributes output) := by
  unfold choices
  rw [unlessSuppressed_of_unsuppressed hw]
  rw [World.foldl_eq_recordAll (g := fun (c, position) =>
    [.emitted ⟨Telemetry.choiceEvent, attributes, some (choiceBody e.capture position c)⟩])]
  . simp [choicesEffects, World.log_eq_recordAll, List.map_eq_flatMap]
  . intros
    rfl
  . simpa [World.log_eq_recordAll] using hw

theorem call_eq (nested : Call → World → World) (e : Emitter) (attributes : List Attribute)
    (d : Details) (responseId : String)
    : e.call nested attributes d responseId w
        =
      e.completion nested attributes d e.capture.mode responseId
        (w.recordAll (e.promptsEffects attributes d)) := by
  unfold call
  rw [unlessSuppressed_of_unsuppressed hw]
  dsimp
  rw [World.foldl_eq_recordAll (fun _ m h => systemPrompt_eq h e attributes m) _ w hw]
  rw [World.foldl_eq_recordAll (fun _ m h => userPrompt_eq h e attributes m)]
  . simp [promptsEffects]
  . simpa using hw

end Emitter

def Call.performAll (calls : List Call) (w : World) : World :=
  calls.foldl (fun w c => c.perform w) w

theorem Call.performAll_append (first rest : List Call) (w : World)
    : Call.performAll (first ++ rest) w = Call.performAll rest (Call.performAll first w) := by
  unfold Call.performAll
  rw [List.foldl_append]

theorem Call.performWith_of_suppressed (nested : Call → World → World) (c : Call) {w : World}
    (hw : w.isSuppressed = true)
    : c.performWith nested w = w := by
  unfold Call.performWith
  cases c.operation <;> exact Emitter.unlessSuppressed_of_suppressed hw _

theorem Call.performAt_of_suppressed (depth : Nat) (c : Call) {w : World}
    (hw : w.isSuppressed = true)
    : c.performAt depth w = w := by
  cases depth with
  | zero => rfl
  | succ depth => exact Call.performWith_of_suppressed (performAt depth) c hw

theorem Call.perform_of_suppressed (c : Call) (w : World) (hw : w.isSuppressed = true)
    : c.perform w = w :=
  performAt_of_suppressed 2 c hw

end Emission
end ChatTelemetry
