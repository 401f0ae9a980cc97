import ChatTelemetry.Proofs.Noninterference
import ChatTelemetry.Proofs.Retention

/-!
This module shows that telemetry does not feed itself: while content is stored telemetry is
suppressed, so that backends may come back to emitters as often as they like without any effect.
-/

namespace ChatTelemetry

namespace Effect

/-- Whether telemetry was suppressed when an upload was begun. -/
def uploadSuppressed? : Effect → Option Bool
  | uploadStarted _ _ _ suppressed => some suppressed
  | _ => none

end Effect

section Nested

variable {nested other : Emission.Call → World → World}
  (hnested : ∀ c w, w.isSuppressed = true → nested c w = w)
  (hother : ∀ c w, w.isSuppressed = true → other c w = w)

namespace Storage

open Json (Value)

namespace Handle

include hnested hother in
theorem store_congr (h : Handle) : h.store nested = h.store other := by
  funext name v w
  rw [store_eq hnested, store_eq hother]

include hnested in
theorem uploadSuppressed_store (h : Handle) (name : String) (v : Value) (w : World)
    : ∃ shown, (h.store nested name v w).2.trace = w.trace ++ shown ∧
        shown.filterMap Effect.uploadSuppressed?
          = (h.resolve w).1.toList.map fun _ => true := by
  refine ⟨h.storeEffects w name v, ?_, ?_⟩
  . rw [store_eq hnested]
  . rw [filterMap_storeEffects (fun _ => rfl) (fun _ => rfl)]
    rw [resolve_eq]
    simp [Effect.uploadSuppressed?]

end Handle
end Storage

namespace Emission

open Telemetry (Attribute)

/-- All that there is to upload of a completion, if there is a backend for it. -/
def Details.uploadsTo (d : Details) (backend : Option Storage.Backend) (responseId : String)
    : List (Storage.Backend × String × Json.Value) :=
  backend.toList.flatMap fun b => d.collections.map fun (c, v) => (b, c.objectName responseId, v)

theorem Details.objectName_of_mem_uploadsTo (d : Details) (backend : Option Storage.Backend)
    (responseId : String)
    : ∀ u ∈ d.uploadsTo backend responseId, ∃ c : Collection, u.2.1 = c.objectName responseId := by
  intro u hu
  obtain ⟨b, -, hu⟩ := List.mem_flatMap.mp hu
  obtain ⟨⟨c, v⟩, -, rfl⟩ := List.mem_map.mp hu
  exact ⟨c, rfl⟩

theorem Details.length_uploadsTo_le (d : Details) (backend : Option Storage.Backend)
    (responseId : String)
    : (d.uploadsTo backend responseId).length ≤ 3 := by
  unfold uploadsTo collections
  cases backend <;> cases d.system? <;> simp

include hnested hother in
theorem Call.performWith_congr (c : Call) : c.performWith nested = c.performWith other := by
  have hstore : ∀ e : Emitter, e.referenceBody nested = e.referenceBody other := by
    intro e
    funext d responseId w
    unfold Emitter.referenceBody
    rw [Storage.Handle.store_congr hnested hother]
  have hcompletion : ∀ e : Emitter, e.completion nested = e.completion other := by
    intro e
    funext attributes d mode responseId w
    unfold Emitter.completion
    rw [hstore]
  funext w
  unfold Call.performWith Emitter.call
  rw [hcompletion]

include hnested in
/-- A completion uploads all that it has to one backend, or nothing. -/
theorem Emitter.uploads_completion {w : World} (hw : w.isSuppressed = false) (e : Emitter)
    (attributes : List Attribute) (d : Details) (mode : Mode) (responseId : String)
    : ∃ backend : Option Storage.Backend,
        (e.completion nested attributes d mode responseId w).uploads
          = w.uploads ++ d.uploadsTo backend responseId := by
  have hmeasured := (e.measuredEffects_quiet attributes d).2
  cases hcapture : e.capture.messageContent with
  | false =>
    refine ⟨none, ?_⟩
    rw [completion_eq_of_off hw hcapture, World.uploads_recordAll, bareCompletionEffects]
    rw [List.filterMap_append, hmeasured]
    rfl
  | true =>
    cases mode with
    | inlined =>
      refine ⟨none, ?_⟩
      rw [completion_inlined_eq hw hcapture, World.uploads_recordAll]
      rw [List.filterMap_append, hmeasured]
      rfl
    | reference =>
      let begun := w.recordAll (e.measuredEffects attributes d ++
        [.logged (debugLog "recording completion details as references"
          [("response_id", .quoted responseId)])])
      have hbegun : begun.uploads = w.uploads := by
        rw [World.uploads_recordAll, List.filterMap_append, hmeasured]
        exact List.append_nil _
      obtain ⟨-, -, hstored⟩ := storeCollections_eq hnested e.storage responseId d.collections begun
      have hcompletion := completion_reference_eq hw hcapture nested attributes d responseId
      refine ⟨(e.storage.lookup begun).backend, ?_⟩
      dsimp only at hcompletion
      rw [hcompletion, World.record_eq_recordAll, World.uploads_recordAll, hstored, hbegun]
      exact List.append_nil _

include hnested in
/-- A completion shows one event and begins no more than three uploads. -/
theorem Emitter.completion_shows {w : World} (hw : w.isSuppressed = false) (e : Emitter)
    (attributes : List Attribute) (d : Details) (mode : Mode) (responseId : String)
    : let after := e.completion nested attributes d mode responseId w
      after.suppression = w.suppression ∧
      (∃ body, after.events
        = w.events ++ [⟨Telemetry.completionDetailsEvent, attributes, body⟩]) ∧
      ∃ uploads, uploads.length ≤ 3 ∧ after.uploads = w.uploads ++ uploads := by
  intro after
  have hevents := (e.measuredEffects_quiet attributes d).1
  obtain ⟨backend, huploads⟩ := e.uploads_completion hnested hw attributes d mode responseId
  rw [← and_assoc]
  refine ⟨?_, _, d.length_uploadsTo_le backend responseId, huploads⟩
  cases hcapture : e.capture.messageContent with
  | false =>
    have hafter : after = _ := completion_eq_of_off hw hcapture nested attributes d mode responseId
    rw [hafter, World.events_recordAll, bareCompletionEffects, List.filterMap_append, hevents]
    exact ⟨rfl, none, rfl⟩
  | true =>
    cases mode with
    | inlined =>
      have hafter : after = _ := completion_inlined_eq hw hcapture nested attributes d responseId
      rw [hafter, World.events_recordAll, List.filterMap_append, hevents]
      exact ⟨rfl, some (inlineBody d), rfl⟩
    | reference =>
      have hafter : after = _ := completion_reference_eq hw hcapture nested attributes d responseId
      let begun := w.recordAll (e.measuredEffects attributes d ++
        [.logged (debugLog "recording completion details as references"
          [("response_id", .quoted responseId)])])
      have hsuppression :=
        storeCollections_suppression hnested e.storage responseId d.collections begun
      obtain ⟨_, hevents', _⟩ :=
        storeCollections_eq hnested e.storage responseId d.collections begun
      rw [hafter, World.record_eq_recordAll, World.events_recordAll, hevents']
      rw [World.events_recordAll, List.filterMap_append, hevents]
      exact ⟨hsuppression, some (.object _), by simp [Effect.event?]; rfl⟩

include hnested in
theorem Call.suppression_performWith (c : Call) (w : World)
    : (c.performWith nested w).suppression = w.suppression := by
  cases hw : w.isSuppressed with
  | true => rw [performWith_of_suppressed nested c hw]
  | false =>
    unfold performWith
    cases c.operation with
    | systemPrompt m =>
      dsimp only
      rw [Emitter.systemPrompt_eq hw]
      rfl
    | userPrompt m =>
      dsimp only
      rw [Emitter.userPrompt_eq hw]
      rfl
    | choices output =>
      dsimp only
      rw [Emitter.choices_eq hw]
      rfl
    | completion d mode responseId =>
      exact (c.emitter.completion_shows hnested hw c.attributes d mode responseId).1
    | call d responseId =>
      dsimp only
      rw [Emitter.call_eq hw]
      have hbegun := w.isSuppressed_recordAll (c.emitter.promptsEffects c.attributes d)
      exact (c.emitter.completion_shows hnested (hbegun.trans hw) c.attributes d _ responseId).1

end Emission
end Nested

namespace Emission

theorem Call.perform_eq_performWith (c : Call) (w : World)
    : c.perform w = c.performWith Call.perform w := by
  have hcongr := performWith_congr (performAt_of_suppressed 1) (performAt_of_suppressed 2) c
  exact congrFun hcongr w

/--
Suppose calls are run in such a way that the calls of backends are run the same way, however deep
that goes. Then there is only one way to run them. Uploads are suppressed and suppressed calls
change nothing, so that it makes no difference what calls a backend makes: a completion shows one
event and begins no more than three uploads. No call changes whether telemetry is suppressed.
-/
theorem telemetry_does_not_feed_itself {run : Call → World → World}
    (hrun : ∀ c w, run c w = c.performWith run w)
    : (∀ c w, run c w = c.perform w) ∧
      (∀ c w, w.isSuppressed = true → run c w = w) ∧
      (∀ c w, run c w = c.performWith (fun _ w => w) w) ∧
      (∀ (h : Storage.Handle) name v w, ∃ shown,
        (h.store run name v w).2.trace = w.trace ++ shown ∧
        shown.filterMap Effect.uploadSuppressed? = (h.resolve w).1.toList.map fun _ => true) ∧
      (∀ c w, (run c w).suppression = w.suppression) ∧
      ∀ e attributes d mode responseId w, w.isSuppressed = false →
        let after := run ⟨e, attributes, .completion d mode responseId⟩ w
        (∃ body, after.events
          = w.events ++ [⟨Telemetry.completionDetailsEvent, attributes, body⟩]) ∧
        ∃ uploads, uploads.length ≤ 3 ∧ after.uploads = w.uploads ++ uploads := by
  have hsuppressed : ∀ c w, w.isSuppressed = true → run c w = w := by
    intro c w hw
    rw [hrun]
    exact Call.performWith_of_suppressed run c hw
  refine ⟨?_, hsuppressed, ?_, ?_, ?_, ?_⟩
  . intro c w
    rw [hrun]
    exact congrFun (Call.performWith_congr hsuppressed (Call.performAt_of_suppressed 1) c) w
  . intro c w
    rw [hrun]
    exact congrFun (Call.performWith_congr hsuppressed (fun _ _ _ => rfl) c) w
  . exact Storage.Handle.uploadSuppressed_store hsuppressed
  . intro c w
    rw [hrun]
    exact Call.suppression_performWith hsuppressed c w
  . intro e attributes d mode responseId w hw after
    have hafter : after = e.completion run attributes d mode responseId w := hrun _ w
    rw [hafter]
    exact (e.completion_shows hsuppressed hw attributes d mode responseId).2

/-- A backend that reports each upload by a call whose content it is to store itself. -/
theorem telemetry_does_not_feed_itself_through_a_reporting_backend
    : let e : Emitter :=
        { storage := .injected (.custom "reporting" 0)
          capture := { mode := .reference, messageContent := true } }
      let report (name : String) : Call := ⟨e, [], .call {} name⟩
      let w : World :=
        { World.blank with
          customs := fun _ =>
            ⟨fun name _ _ => [report name, report name], fun name _ _ => .ok name⟩ }
      (∀ c w, Call.perform c w = c.performWith Call.perform w) ∧
      w.isSuppressed = false ∧
      ∃ body, ((Call.mk e [] (.completion {} .reference "r")).perform w).events
        = [⟨Telemetry.completionDetailsEvent, [], body⟩] := by
  intro e report w
  refine ⟨Call.perform_eq_performWith, rfl, ?_⟩
  obtain ⟨_, _, _, _, _, hcompletion⟩ :=
    telemetry_does_not_feed_itself Call.perform_eq_performWith
  exact (hcompletion e [] {} .reference "r" w rfl).1

end Emission
end ChatTelemetry
