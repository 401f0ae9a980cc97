import ChatTelemetry.Proofs.Reentrance

/-!
This module shows that the objects of a call stand or fall together by their names: whether these
are proper only depends on the id of the response.
-/

namespace ChatTelemetry

theorem Effect.upload?_of_not_leavesProcess {effect : Effect} (h : effect.leavesProcess = false)
    : effect.upload? = none := by
  cases effect with
  | uploadStarted b name v suppressed => cases h
  | _ => rfl

theorem World.uploads_recordAll_of_inside {es : List Effect}
    (h : ∀ effect ∈ es, effect.leavesProcess = false) (w : World)
    : (w.recordAll es).uploads = w.uploads := by
  rw [uploads_recordAll, List.filterMap_eq_nil_iff.mpr, List.append_nil]
  intro effect heffect
  exact Effect.upload?_of_not_leavesProcess (h effect heffect)

namespace Storage

theorem isPlain_of_length {s : List Char} (h : 2 < s.length) : IsPlain s := by
  refine ⟨?_, ?_, ?_⟩ <;>
  . rintro rfl
    exact absurd h (by decide)

/-- A long ending makes up for whatever the last segment is, and leaves the others alone. -/
theorem isObjectName_append_iff (stem : String) {ending : String} (hslash : '/' ∉ ending.toList)
    (hbackslash : '\\' ∉ ending.toList) (hlong : 2 < ending.toList.length)
    : isObjectName (stem ++ ending) = true
        ↔
      '\\' ∉ stem.toList ∧ ∀ s ∈ (objectSegments stem).dropLast, IsPlain s := by
  obtain ⟨front, last, hstem, happend⟩ := @Text.segments_append _ _ '/' stem.toList
  have hsegments : objectSegments (stem ++ ending) = front ++ [last ++ ending.toList] := by
    unfold objectSegments
    rw [String.toList_append, happend _ hslash]
  have hfront : (objectSegments stem).dropLast = front := by
    unfold objectSegments
    rw [hstem, List.dropLast_concat]
  have hlast : IsPlain (last ++ ending.toList) := by
    apply isPlain_of_length
    rw [List.length_append]
    omega
  rw [isObjectName_iff, hsegments, hfront, String.toList_append, List.mem_append, not_or]
  rw [List.forall_mem_append, List.forall_mem_singleton]
  simp [hbackslash, hlast]

end Storage

namespace Emission

open Storage (Backend IsPlain isObjectName objectSegments)
open Telemetry (Attribute)

theorem Collection.isObjectName_objectName_iff (c : Collection) (responseId : String)
    : isObjectName (c.objectName responseId) = true
        ↔
      '\\' ∉ responseId.toList ∧ ∀ s ∈ (objectSegments responseId).dropLast, IsPlain s := by
  cases c <;> exact Storage.isObjectName_append_iff responseId (by decide) (by decide) (by decide)

/-! ### The uploads of a call -/

section Nested

variable {nested : Call → World → World}
  (hnested : ∀ c w, w.isSuppressed = true → nested c w = w)

include hnested

/-- All that a call uploads are objects of one response. -/
theorem Call.uploads_performWith (c : Call) (w : World)
    : ∃ responseId uploads,
        (c.performWith nested w).uploads = w.uploads ++ uploads ∧
        ∀ u ∈ uploads, ∃ k : Collection, u.2.1 = k.objectName responseId := by
  cases hw : w.isSuppressed with
  | true =>
    refine ⟨"", [], ?_, by simp⟩
    rw [performWith_of_suppressed nested c hw, List.append_nil]
  | false =>
    unfold performWith
    cases c.operation with
    | systemPrompt m =>
      refine ⟨"", [], ?_, by simp⟩
      dsimp only
      rw [Emitter.systemPrompt_eq hw, List.append_nil]
      exact World.uploads_recordAll_of_inside (Emitter.leavesProcess_systemPromptEffects _ _ m) w
    | userPrompt m =>
      refine ⟨"", [], ?_, by simp⟩
      dsimp only
      rw [Emitter.userPrompt_eq hw, List.append_nil]
      exact World.uploads_recordAll_of_inside (Emitter.leavesProcess_userPromptEffects _ _ m) w
    | choices output =>
      refine ⟨"", [], ?_, by simp⟩
      dsimp only
      rw [Emitter.choices_eq hw, List.append_nil]
      exact World.uploads_recordAll_of_inside (Emitter.leavesProcess_choicesEffects _ _ output) w
    | completion d mode responseId =>
      obtain ⟨backend, huploads⟩ :=
        c.emitter.uploads_completion hnested hw c.attributes d mode responseId
      exact ⟨responseId, _, huploads, d.objectName_of_mem_uploadsTo backend responseId⟩
    | call d responseId =>
      have hbegun := w.isSuppressed_recordAll (c.emitter.promptsEffects c.attributes d)
      obtain ⟨backend, huploads⟩ := c.emitter.uploads_completion hnested (hbegun.trans hw)
        c.attributes d c.emitter.capture.mode responseId
      refine ⟨responseId, _, ?_, d.objectName_of_mem_uploadsTo backend responseId⟩
      dsimp only
      rw [Emitter.call_eq hw, huploads]
      rw [World.uploads_recordAll_of_inside (Emitter.leavesProcess_promptsEffects _ _ d)]

end Nested

/--
The names of a response's objects are proper exactly if its id has no backslash and all of its
segments but the last lead down. So a call never uploads objects of which some have proper names and
others have not.
-/
theorem objects_of_a_call_are_named_alike
    : (∀ (responseId : String) (c : Collection),
        isObjectName (c.objectName responseId) = true
          ↔
        '\\' ∉ responseId.toList ∧ ∀ s ∈ (objectSegments responseId).dropLast, IsPlain s) ∧
      ∀ (c : Call) (w : World), ∃ uploads,
        (c.perform w).uploads = w.uploads ++ uploads ∧
        ((∀ u ∈ uploads, isObjectName u.2.1 = true) ∨
          ∀ u ∈ uploads, isObjectName u.2.1 = false) := by
  refine ⟨fun responseId c => c.isObjectName_objectName_iff responseId, ?_⟩
  intro c w
  obtain ⟨responseId, uploads, huploads, hnames⟩ :=
    c.uploads_performWith (Call.performAt_of_suppressed 1) w
  refine ⟨uploads, huploads, ?_⟩
  by_cases hid : '\\' ∉ responseId.toList ∧ ∀ s ∈ (objectSegments responseId).dropLast, IsPlain s
  . left
    intro u hu
    obtain ⟨k, hk⟩ := hnames u hu
    rw [hk, k.isObjectName_objectName_iff]
    exact hid
  . right
    intro u hu
    obtain ⟨k, hk⟩ := hnames u hu
    rw [hk, Bool.eq_false_iff, ne_eq, k.isObjectName_objectName_iff]
    exact hid

/-- The last segment of an id may be anything, the ones before it may not. -/
example : (["", "..", "a/", "/a", "a/../b"].map fun responseId =>
      isObjectName (Collection.input.objectName responseId))
        =
      [true, true, true, false, false] := by
  decide

end Emission
end ChatTelemetry
