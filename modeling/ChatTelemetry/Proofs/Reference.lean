import ChatTelemetry.Proofs.Storing

/-!
This module shows that a completion whose content is stored shows the body that it would show with
the content in it, with where each collection is stored in the place of the collection.
-/

namespace ChatTelemetry

namespace Emission

open Json (Value)
open Storage (Handle Backend AreSiblings locatorOf)
open Telemetry (Attribute Event)

/-! ### Collections -/

inductive Collection
  | input
  | output
  | system
deriving DecidableEq, Repr

namespace Collection

def key : Collection → String
  | input => Telemetry.inputMessagesKey
  | output => Telemetry.outputMessagesKey
  | system => Telemetry.systemInstructionsKey

def refKey : Collection → String
  | input => Telemetry.inputMessagesRefKey
  | output => Telemetry.outputMessagesRefKey
  | system => Telemetry.systemInstructionsRefKey

def suffix : Collection → String
  | input => "_input.json"
  | output => "_output.json"
  | system => "_system_instructions.json"

def objectName (c : Collection) (responseId : String) : String :=
  responseId ++ c.suffix

theorem refKey_eq (c : Collection) : c.refKey = c.key ++ "_ref" := by
  cases c <;> decide

theorem areSiblings_objectName (c k : Collection) (responseId : String)
    : AreSiblings (c.objectName responseId) (k.objectName responseId) := by
  apply Storage.areSiblings_append
  . cases c <;> decide
  . cases k <;> decide

end Collection

def Details.collections (d : Details) : List (Collection × Value) :=
  [(.input, Chat.messagesToWire d.input), (.output, Chat.choicesToWire d.output)] ++
    match d.system? with
    | none => []
    | some messages => [(.system, Chat.messagesToWire messages)]

theorem inlineBody_eq (d : Details)
    : inlineBody d = .object (d.collections.map fun (c, v) => (c.key, v)) := by
  unfold inlineBody Details.collections
  cases d.system? <;> rfl

/-- Stores collections one after another and gives the fields that say where. -/
def storeCollections (nested : Call → World → World) (h : Handle) (responseId : String)
    : List (Collection × Value) → World → List (String × Value) × World
  | [], w => ([], w)
  | (c, v) :: rest, w =>
    let (locator, w) := h.store nested (c.objectName responseId) v w
    let (fields, w) := storeCollections nested h responseId rest w
    ((c.refKey, .string locator) :: fields, w)

theorem Emitter.referenceBody_eq (nested : Call → World → World) (e : Emitter) (d : Details)
    (responseId : String) (w : World)
    : e.referenceBody nested d responseId w
        =
      (.object (storeCollections nested e.storage responseId d.collections w).1,
        (storeCollections nested e.storage responseId d.collections w).2) := by
  unfold referenceBody Details.collections
  cases d.system? <;> rfl

/-! ### What is stored -/

section Stored

variable {nested : Call → World → World}
  (hnested : ∀ c w, w.isSuppressed = true → nested c w = w)

include hnested

/-- Every collection is stored as if it were the only one; nothing but the uploads is seen of it. -/
theorem storeCollections_eq (h : Handle) (responseId : String)
    (collections : List (Collection × Value)) (w : World)
    : let stored := storeCollections nested h responseId collections w
      stored.1
          = collections.map (fun (c, v) =>
              (c.refKey, .string (locatorOf (h.answer w (c.objectName responseId) v)))) ∧
        stored.2.events = w.events ∧
        stored.2.uploads
          = w.uploads ++ (h.lookup w).backend.toList.flatMap fun b =>
              collections.map fun (c, v) => (b, c.objectName responseId, v) := by
  induction collections generalizing w with
  | nil => simp [storeCollections]
  | cons collection rest ih =>
    obtain ⟨c, v⟩ := collection
    unfold storeCollections
    rw [Handle.store_eq hnested]
    dsimp only
    obtain ⟨hfields, hevents, huploads⟩ := ih
      { w with
        cell := (h.lookup w).cell
        files := h.filesAfter w (c.objectName responseId) v
        trace := w.trace ++ h.storeEffects w (c.objectName responseId) v }
    refine ⟨?_, ?_, ?_⟩
    . rw [hfields, List.map_cons, List.cons.injEq]
      refine ⟨rfl, ?_⟩
      -- The answers to come are those of the world before, since all names lead to one directory.
      apply List.map_congr_left
      rintro ⟨k, u⟩ _
      dsimp only
      rw [Handle.locatorOf_answer_beside (Collection.areSiblings_objectName k c responseId)]
    . rw [hevents]
      unfold World.events
      rw [List.filterMap_append, Handle.events_storeEffects, List.append_nil]
    . rw [huploads, Handle.backend_lookup_settled]
      unfold World.uploads
      rw [List.filterMap_append, Handle.uploads_storeEffects]
      cases (h.lookup w).backend with
      | none => simp
      | some b => simp

end Stored

/-! ### Completions with content -/

namespace Emitter

variable {w : World} (hw : w.isSuppressed = false) {e : Emitter}
  (hcapture : e.capture.messageContent = true)

include hw hcapture

theorem completion_inlined_eq (nested : Call → World → World) (attributes : List Attribute)
    (d : Details) (responseId : String)
    : e.completion nested attributes d .inlined responseId w
        =
      w.recordAll (e.measuredEffects attributes d ++
        [ .logged (debugLog "recording completion details" []),
          .emitted ⟨Telemetry.completionDetailsEvent, attributes, some (inlineBody d)⟩ ]) := by
  unfold completion measuredEffects
  rw [unlessSuppressed_of_unsuppressed hw]
  cases e.measures with
  | false => simp [hcapture, emit, World.record_eq_recordAll, World.log_eq_recordAll]
  | true => simp [hcapture, emit, World.record_eq_recordAll, World.log_eq_recordAll]

theorem completion_reference_eq (nested : Call → World → World) (attributes : List Attribute)
    (d : Details) (responseId : String)
    : let begun := w.recordAll (e.measuredEffects attributes d ++
        [.logged (debugLog "recording completion details as references"
          [("response_id", .quoted responseId)])])
      let stored := storeCollections nested e.storage responseId d.collections begun
      e.completion nested attributes d .reference responseId w
          =
        stored.2.record
          (.emitted ⟨Telemetry.completionDetailsEvent, attributes, some (.object stored.1)⟩) := by
  unfold completion measuredEffects
  rw [unlessSuppressed_of_unsuppressed hw]
  cases e.measures with
  | false =>
    simp [hcapture, emit, World.record_eq_recordAll, World.log_eq_recordAll, referenceBody_eq]
  | true =>
    simp [hcapture, emit, World.record_eq_recordAll, World.log_eq_recordAll, referenceBody_eq]

end Emitter

theorem Emitter.measuredEffects_quiet (e : Emitter) (attributes : List Attribute) (d : Details)
    : (e.measuredEffects attributes d).filterMap Effect.event? = [] ∧
        (e.measuredEffects attributes d).filterMap Effect.upload? = [] := by
  unfold measuredEffects
  cases e.measures <;> simp [Effect.event?, Effect.upload?]

theorem Emitter.events_completion_inlined {w : World} (hw : w.isSuppressed = false) {e : Emitter}
    (hcapture : e.capture.messageContent = true) (nested : Call → World → World)
    (attributes : List Attribute) (d : Details) (responseId : String)
    : (e.completion nested attributes d .inlined responseId w).events
        =
      w.events ++ [⟨Telemetry.completionDetailsEvent, attributes, some (inlineBody d)⟩] := by
  rw [completion_inlined_eq hw hcapture, World.events_recordAll, List.filterMap_append]
  rw [(e.measuredEffects_quiet attributes d).1]
  rfl

/--
A completion whose content is stored shows one event, as the one with its content in it does. Its
body has a reference for each key of that one, its uploads are the values there, and a reference
is the locator that the backend answers to its own value, whatever becomes of the others.
-/
theorem stored_completion_follows_inlined {e : Emitter}
    (hcapture : e.capture.messageContent = true) {w : World} (hw : w.isSuppressed = false)
    (attributes : List Attribute) (d : Details) (responseId : String)
    : let inlined := (Call.mk e attributes (.completion d .inlined responseId)).perform w
      let stored := (Call.mk e attributes (.completion d .reference responseId)).perform w
      let backend := (e.storage.resolve w).1
      let event (body : List (String × Value)) : Event :=
        ⟨Telemetry.completionDetailsEvent, attributes, some (.object body)⟩
      inlined.events = w.events ++ [event (d.collections.map fun (c, v) => (c.key, v))] ∧
      stored.events = w.events ++ [event (d.collections.map fun (c, v) =>
        (c.key ++ "_ref",
          .string (locatorOf (backend.map fun b => b.answer w (c.objectName responseId) v))))] ∧
      stored.uploads = w.uploads ++ backend.toList.flatMap fun b =>
        d.collections.map fun (c, v) => (b, c.objectName responseId, v) := by
  intro inlined stored backend event
  have hbackend : backend = (e.storage.lookup w).backend := by
    rw [show backend = (e.storage.resolve w).1 from rfl, Handle.resolve_eq]
  obtain ⟨hevents, huploads⟩ := e.measuredEffects_quiet attributes d
  refine ⟨?_, ?_⟩
  . have hinlined : inlined = _ :=
      Emitter.completion_inlined_eq hw hcapture (Call.performAt 1) attributes d responseId
    rw [hinlined, inlineBody_eq, World.events_recordAll, List.filterMap_append, hevents]
    rfl
  . have hstored : stored = _ :=
      Emitter.completion_reference_eq hw hcapture (Call.performAt 1) attributes d responseId
    obtain ⟨hfields, hevents', huploads'⟩ :=
      storeCollections_eq (Call.performAt_of_suppressed 1) e.storage responseId d.collections
        (w.recordAll (e.measuredEffects attributes d ++
          [.logged (debugLog "recording completion details as references"
            [("response_id", .quoted responseId)])]))
    rw [hstored, World.record_eq_recordAll, World.events_recordAll, World.uploads_recordAll]
    rw [hevents', huploads', hfields, hbackend]
    rw [World.events_recordAll, World.uploads_recordAll, Handle.lookup_recordAll]
    rw [List.filterMap_append, List.filterMap_append, hevents, huploads]
    simp only [Handle.answer_recordAll, Collection.refKey_eq]
    refine ⟨?_, ?_⟩
    . simp [Effect.event?, event, Handle.answer]
    . simp [List.filterMap_cons, Effect.upload?]

/-- A backend that refuses the output alone. -/
theorem stored_completion_follows_inlined_where_one_upload_fails
    : let answer (name : String) : Except Storage.UploadError String :=
        if name = "r_output.json" then .error (.transport "") else .ok name
      let w : World :=
        { World.blank with customs := fun _ => ⟨fun _ _ _ => [], fun name _ _ => answer name⟩ }
      let e : Emitter :=
        { storage := .injected (.custom "memory" 0), capture := { messageContent := true } }
      let d : Details := { systemInstructions := some [⟨.system, []⟩] }
      ((Call.mk e [] (.completion d .reference "r")).perform w).events
          = [⟨Telemetry.completionDetailsEvent, [], some (.object
              [ ("gen_ai.input.messages_ref", .string "r_input.json"),
                ("gen_ai.output.messages_ref", .string "/dev/null"),
                ("gen_ai.system.instructions_ref", .string "r_system_instructions.json") ])⟩] := by
  intro answer w e d
  exact (@stored_completion_follows_inlined e rfl w rfl [] d "r").2.1

end Emission
end ChatTelemetry
