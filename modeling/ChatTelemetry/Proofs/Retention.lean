import ChatTelemetry.Proofs.Reference
import ChatTelemetry.Proofs.ShownPath
import Mathlib.Data.List.Nodup

/-!
This module shows that content which has been stored in files is never written over by calls for
other responses.
-/

namespace ChatTelemetry

open Telemetry (Attribute Event)

namespace World

def completions (w : World) : List Event :=
  w.events.filter (·.name = Telemetry.completionDetailsEvent)

theorem completions_recordAll (w : World) (es : List Effect)
    : (w.recordAll es).completions
        =
      w.completions ++
        (es.filterMap Effect.event?).filter (·.name = Telemetry.completionDetailsEvent) := by
  simp [completions]

end World

namespace Emission

open Json (Value)
open Storage (Backend Filesystem.uploadAll Filesystem.objectPath IsTextual UploadError
  discardLocator locatorOf shownPath)

/-! ### Names of objects -/

namespace Collection

theorem eq_of_suffix {c k : Collection} (h : c.suffix.toList <:+ k.suffix.toList) : c = k := by
  revert h
  cases c <;> cases k <;> decide

/-- No two objects have one name, whatever the ids of their responses are like. -/
theorem objectName_injective {c k : Collection} {responseId otherId : String}
    (h : c.objectName responseId = k.objectName otherId)
    : c = k ∧ responseId = otherId := by
  have hchars : responseId.toList ++ c.suffix.toList = otherId.toList ++ k.suffix.toList := by
    simpa [objectName] using congrArg String.toList h
  have hc : c.suffix.toList <:+ otherId.toList ++ k.suffix.toList := ⟨_, hchars⟩
  have hk : k.suffix.toList <:+ otherId.toList ++ k.suffix.toList := ⟨_, rfl⟩
  -- Both suffixes end the same text, so one of them would end the other.
  obtain rfl : c = k := by
    rcases List.suffix_or_suffix_of_suffix hc hk with hsuffix | hsuffix
    . exact eq_of_suffix hsuffix
    . exact (eq_of_suffix hsuffix).symm
  exact ⟨rfl, String.ext (List.append_cancel_right hchars)⟩

/-- The locator of an object is never the one of content that is discarded. -/
theorem shownPath_objectPath_ne_discardLocator (base : List UInt8) (c : Collection)
    (responseId : String)
    : shownPath (Filesystem.objectPath base (c.objectName responseId)) ≠ discardLocator := by
  obtain ⟨front, hfront⟩ := Storage.Filesystem.exists_locator_eq_append base
  rw [hfront, objectName, ← String.append_assoc]
  intro h
  have hsuffix : c.suffix.toList <:+ discardLocator.toList := by
    rw [← h, String.toList_append]
    exact List.suffix_append ..
  revert hsuffix
  cases c <;> decide

end Collection

def Details.objects (d : Details) (responseId : String) : List (String × Value) :=
  d.collections.map fun (c, v) => (c.objectName responseId, v)

theorem Details.nodup_objects (d : Details) (responseId : String)
    : ((d.objects responseId).map Prod.fst).Nodup := by
  have hcollections : (d.collections.map Prod.fst).Nodup := by
    unfold collections
    cases d.system? <;> simp
  have hnames : (d.objects responseId).map Prod.fst
      = (d.collections.map Prod.fst).map (·.objectName responseId) := by
    simp [objects]
  rw [hnames]
  apply List.Nodup.map _ hcollections
  intro c k h
  exact (Collection.objectName_injective h).1

theorem Details.mem_names_objects {d : Details} {responseId name : String}
    (h : name ∈ (d.objects responseId).map Prod.fst)
    : ∃ c : Collection, name = c.objectName responseId := by
  simp only [objects, List.map_map, List.mem_map, Function.comp_apply] at h
  obtain ⟨⟨c, v⟩, _, rfl⟩ := h
  exact ⟨c, rfl⟩

/-! ### Keeping content in files -/

theorem storeCollections_suppression {nested : Call → World → World}
    (hnested : ∀ c w, w.isSuppressed = true → nested c w = w) (h : Storage.Handle)
    (responseId : String) (collections : List (Collection × Value)) (w : World)
    : (storeCollections nested h responseId collections w).2.suppression = w.suppression := by
  induction collections generalizing w with
  | nil => rfl
  | cons collection rest ih =>
    unfold storeCollections
    rw [Storage.Handle.store_eq hnested]
    exact ih _

theorem storeCollections_filesystem {nested : Call → World → World}
    (hnested : ∀ c w, w.isSuppressed = true → nested c w = w) {h : Storage.Handle}
    {base : List UInt8} (responseId : String) (collections : List (Collection × Value)) {w : World}
    (hbackend : (h.lookup w).backend = some (.filesystem base))
    : let stored := storeCollections nested h responseId collections w
      let uploaded := Filesystem.uploadAll base
        (collections.map fun p => (p.1.objectName responseId, p.2)) w.files
      stored.1
          = List.zipWith (fun p r => (p.1.refKey, .string (locatorOf (some r))))
              collections uploaded.1 ∧
        stored.2.files = uploaded.2 := by
  induction collections generalizing w with
  | nil => exact ⟨rfl, rfl⟩
  | cons collection rest ih =>
    obtain ⟨c, v⟩ := collection
    let o := Storage.Filesystem.upload base (c.objectName responseId) v w.files
    have hanswer : h.answer w (c.objectName responseId) v = some o.result := by
      unfold Storage.Handle.answer
      rw [hbackend]
      rfl
    have hafter : h.filesAfter w (c.objectName responseId) v = o.files := by
      unfold Storage.Handle.filesAfter
      rw [hbackend]
      rfl
    unfold storeCollections
    rw [Storage.Handle.store_eq hnested, hanswer, hafter]
    obtain ⟨hfields, hfiles⟩ := @ih
      { w with
        cell := (h.lookup w).cell
        files := o.files
        trace := w.trace ++ h.storeEffects w (c.objectName responseId) v }
      ((h.backend_lookup_settled ..).trans hbackend)
    dsimp only
    rw [hfields, hfiles]
    exact ⟨rfl, rfl⟩

/-- A call that keeps the content of a completion in files below a base. -/
structure Keeping (base : List UInt8) where
  emitter : Emitter
  attributes : List Attribute
  operation : Operation
  details : Details
  responseId : String
  storage : emitter.storage = .injected (.filesystem base)
  capture : emitter.capture.messageContent = true
  keeps : operation = .completion details .reference responseId ∨
    (operation = .call details responseId ∧ emitter.capture.mode = .reference)

namespace Keeping

variable {base : List UInt8}

def call (k : Keeping base) : Call :=
  ⟨k.emitter, k.attributes, k.operation⟩

def objects (k : Keeping base) : List (String × Value) :=
  k.details.objects k.responseId

def event (k : Keeping base) (results : List (Except UploadError String)) : Event :=
  ⟨Telemetry.completionDetailsEvent, k.attributes,
    some (.object (List.zipWith (fun (c, _) r => (c.refKey, .string (locatorOf (some r))))
      k.details.collections results))⟩

theorem completion_eq (k : Keeping base) {w : World} (hw : w.isSuppressed = false)
    : let after := k.emitter.completion (Call.performAt 1) k.attributes k.details .reference
        k.responseId w
      let uploaded := Filesystem.uploadAll base k.objects w.files
      after.suppression = w.suppression ∧ after.files = uploaded.2 ∧
        after.completions = w.completions ++ [k.event uploaded.1] := by
  intro after uploaded
  let begun := w.recordAll (k.emitter.measuredEffects k.attributes k.details ++
    [.logged (debugLog "recording completion details as references"
      [("response_id", .quoted k.responseId)])])
  have hafter : after = _ := Emitter.completion_reference_eq hw k.capture (Call.performAt 1)
    k.attributes k.details k.responseId
  rw [k.storage] at hafter
  obtain ⟨hfields, hfiles⟩ := storeCollections_filesystem (Call.performAt_of_suppressed 1)
    (h := .injected (.filesystem base)) k.responseId k.details.collections (w := begun) rfl
  have hsuppression := storeCollections_suppression (Call.performAt_of_suppressed 1)
    (.injected (.filesystem base)) k.responseId k.details.collections begun
  obtain ⟨_, hevents, _⟩ := storeCollections_eq (Call.performAt_of_suppressed 1)
    (.injected (.filesystem base)) k.responseId k.details.collections begun
  have hbegun : begun.events = w.events := by
    rw [World.events_recordAll, List.filterMap_append]
    rw [(k.emitter.measuredEffects_quiet k.attributes k.details).1]
    simp [Effect.event?]
  refine ⟨?_, ?_, ?_⟩
  . rw [hafter]
    exact hsuppression
  . rw [hafter]
    exact hfiles
  . rw [hafter, World.record_eq_recordAll, World.completions_recordAll]
    unfold World.completions
    rw [hevents, hbegun, hfields]
    rfl

theorem completions_promptsEffects (e : Emitter) (attributes : List Attribute) (d : Details)
    : ((e.promptsEffects attributes d).filterMap Effect.event?).filter
        (·.name = Telemetry.completionDetailsEvent) = [] := by
  rw [List.filter_eq_nil_iff]
  intro shown hshown
  obtain ⟨effect, heffect, hevent⟩ := List.mem_filterMap.mp hshown
  unfold Emitter.promptsEffects at heffect
  rcases List.mem_append.mp heffect with heffect | heffect
  . obtain ⟨m, _, heffect⟩ := List.mem_flatMap.mp heffect
    simp only [Emitter.systemPromptEffects, List.mem_cons, List.not_mem_nil, or_false] at heffect
    rcases heffect with rfl | rfl
    . simp [Effect.event?] at hevent
    . cases hevent
      simp [Telemetry.systemMessageEvent, Telemetry.completionDetailsEvent]
  . obtain ⟨m, _, heffect⟩ := List.mem_flatMap.mp heffect
    simp only [Emitter.userPromptEffects, List.mem_cons, List.not_mem_nil, or_false] at heffect
    rcases heffect with rfl | rfl
    . simp [Effect.event?] at hevent
    . cases hevent
      simp [Telemetry.userMessageEvent, Telemetry.completionDetailsEvent]

theorem perform_eq (k : Keeping base) {w : World} (hw : w.isSuppressed = false)
    : let after := k.call.perform w
      let uploaded := Filesystem.uploadAll base k.objects w.files
      after.suppression = w.suppression ∧ after.files = uploaded.2 ∧
        after.completions = w.completions ++ [k.event uploaded.1] := by
  intro after uploaded
  rcases k.keeps with hoperation | ⟨hoperation, hmode⟩
  . have hafter : after = k.emitter.completion (Call.performAt 1) k.attributes k.details
        .reference k.responseId w := by
      simp [after, Call.perform, Call.performAt, Call.performWith, call, hoperation]
    rw [hafter]
    exact k.completion_eq hw
  . have hafter : after = k.emitter.completion (Call.performAt 1) k.attributes k.details .reference
        k.responseId (w.recordAll (k.emitter.promptsEffects k.attributes k.details)) := by
      rw [← hmode, ← Emitter.call_eq hw]
      simp [after, Call.perform, Call.performAt, Call.performWith, call, hoperation]
    obtain ⟨hsuppression, hfiles, hcompletions⟩ :=
      @completion_eq base k (w.recordAll (k.emitter.promptsEffects k.attributes k.details)) hw
    rw [World.completions_recordAll, completions_promptsEffects, List.append_nil] at hcompletions
    rw [hafter]
    exact ⟨hsuppression, hfiles, hcompletions⟩

/-! ### Runs -/

theorem performAll_eq (run : List (Keeping base)) {w : World} (hw : w.isSuppressed = false)
    : let after := Call.performAll (run.map call) w
      after.suppression = w.suppression ∧
        after.files = (Filesystem.uploadAll base (run.flatMap objects) w.files).2 := by
  induction run generalizing w with
  | nil => exact ⟨rfl, rfl⟩
  | cons k run ih =>
    obtain ⟨hsuppression, hfiles, _⟩ := k.perform_eq hw
    obtain ⟨hsuppression', hfiles'⟩ := ih ((World.isSuppressed_congr hsuppression).trans hw)
    refine ⟨hsuppression'.trans hsuppression, ?_⟩
    rw [List.flatMap_cons, Storage.Filesystem.files_uploadAll_append, ← hfiles]
    exact hfiles'

theorem not_mem_objects_of_responseId_ne {k : Keeping base} {run : List (Keeping base)}
    (h : ∀ other ∈ run, k.responseId ≠ other.responseId) {name : String}
    (hname : name ∈ k.objects.map Prod.fst)
    : name ∉ (run.flatMap objects).map Prod.fst := by
  intro hother
  rw [List.map_flatMap, List.mem_flatMap] at hother
  obtain ⟨other, hmem, hother⟩ := hother
  obtain ⟨c, rfl⟩ := Details.mem_names_objects hname
  obtain ⟨c', heq⟩ := Details.mem_names_objects hother
  exact h other hmem (Collection.objectName_injective heq).2

end Keeping

/--
In a run of calls that keep content in files below a base, for responses of different ids, each call
shows one completion. It refers to the place where content is discarded just where an upload has
failed. Elsewhere the file of the object has the text of its own collection at the end of the run,
and what the completion refers to shows the path of this file: it is this path just if the path of
the base is the bytes of a text.
-/
theorem kept_content_is_never_overwritten {base : List UInt8} {before after : List (Keeping base)}
    {k : Keeping base} (hids : ((before ++ k :: after).map (·.responseId)).Nodup) {w : World}
    (hw : w.isSuppressed = false)
    : let start := Call.performAll (before.map (·.call)) w
      let final := Call.performAll ((before ++ k :: after).map (·.call)) w
      let uploaded := Filesystem.uploadAll base k.objects start.files
      uploaded.1.length = k.details.collections.length ∧
      (k.call.perform start).files = uploaded.2 ∧
      (k.call.perform start).completions = start.completions ++ [k.event uploaded.1] ∧
      ∀ c v r, ((c, v), r) ∈ k.details.collections.zip uploaded.1 →
        (locatorOf (some r) = discardLocator ↔ ∃ e, r = .error e) ∧
        ∀ locator, r = .ok locator →
          let path := Filesystem.objectPath base (c.objectName k.responseId)
          final.files.read path = .ok v.text ∧
          locator = shownPath path ∧
          (Text.bytes locator = path ↔ IsTextual base) := by
  intro start final uploaded
  obtain ⟨hstart, _⟩ := Keeping.performAll_eq before hw
  have hw' : start.isSuppressed = false := (World.isSuppressed_congr hstart).trans hw
  obtain ⟨hsuppression, hfiles, hcompletions⟩ := k.perform_eq hw'
  have hlength : uploaded.1.length = k.details.collections.length := by
    rw [Storage.Filesystem.length_uploadAll]
    simp [Keeping.objects, Details.objects]
  refine ⟨hlength, hfiles, hcompletions, ?_⟩
  intro c v r hmem
  have hobject : ((c.objectName k.responseId, v), r) ∈ k.objects.zip uploaded.1 := by
    unfold Keeping.objects Details.objects
    rw [List.zip_map_left, List.mem_map]
    exact ⟨((c, v), r), hmem, rfl⟩
  cases r with
  | error e => simp [locatorOf]
  | ok locator =>
    obtain ⟨hname, hlocator, hread⟩ :=
      Storage.Filesystem.read_of_uploadAll (k.details.nodup_objects k.responseId) hobject
    refine ⟨?_, ?_⟩
    . have : locator ≠ discardLocator := by
        rw [hlocator]
        exact Collection.shownPath_objectPath_ne_discardLocator base c k.responseId
      simp [locatorOf, this]
    . rintro _ ⟨⟩
      refine ⟨?_, hlocator, hlocator ▸ Storage.Filesystem.bytes_locator_iff⟩
      -- All that is uploaded later has other names, since the ids differ.
      have hothers : ∀ other ∈ after, k.responseId ≠ other.responseId := by
        rw [List.map_append, List.map_cons] at hids
        have hlater := (List.nodup_cons.mp (List.nodup_append.mp hids).2.1).1
        intro other hother heq
        exact hlater (List.mem_map.mpr ⟨other, hother, heq.symm⟩)
      have hfinal : final = Call.performAll (after.map (·.call)) (k.call.perform start) := by
        unfold final
        rw [List.map_append, Call.performAll_append]
        rfl
      have hperformed : (k.call.perform start).isSuppressed = false :=
        (World.isSuppressed_congr hsuppression).trans hw'
      rw [hfinal, (Keeping.performAll_eq after hperformed).2, hfiles]
      apply Storage.Filesystem.uploadAll_keeps_read hname _ hread
      apply Keeping.not_mem_objects_of_responseId_ne hothers
      exact List.mem_map.mpr ⟨_, (List.of_mem_zip hobject).1, rfl⟩

/-- A call with its defaults that keeps the content of an empty completion. -/
def Keeping.ofResponse (base : List UInt8) (responseId : String) : Keeping base where
  emitter :=
    { storage := .injected (.filesystem base), capture := { messageContent := true } }
  attributes := []
  operation := .completion {} .reference responseId
  details := {}
  responseId
  storage := rfl
  capture := rfl
  keeps := .inl rfl

/-- The id of the second response goes on from the name of an object of the first one. -/
theorem kept_content_is_never_overwritten_from_below
    : let base := Text.bytes "/store"
      let kept := Keeping.ofResponse base
      let w := { World.blank with files := ⟨[([Text.bytes "store"], .directory)], []⟩ }
      let final := Call.performAll ([kept "r", kept "r_input.json/x"].map (·.call)) w
      final.files.read (Text.bytes "/store/r_input.json") = .ok "[]" := by
  intro base kept w final
  obtain ⟨_, _, _, hkept⟩ := @kept_content_is_never_overwritten base [] [kept "r_input.json/x"]
    (kept "r") (by decide) w rfl
  have huploaded : (Filesystem.uploadAll base (kept "r").objects w.files).1
      = [.ok "/store/r_input.json", .ok "/store/r_output.json"] := by
    decide
  have hpath : Text.bytes "/store/r_input.json" = Filesystem.objectPath base "r_input.json" := by
    decide
  rw [hpath]
  refine ((hkept .input (Chat.messagesToWire []) (.ok "/store/r_input.json") ?_).2 _ rfl).1
  change _ ∈ List.zip _ (Filesystem.uploadAll base (kept "r").objects w.files).1
  rw [huploaded]
  exact List.mem_cons_self

/-- A destination whose path is no text: the completion refers to files that are not there. -/
theorem kept_content_below_no_text_is_not_found
    : let base : List UInt8 := [0x2f, 0xff]
      let k := Keeping.ofResponse base "r"
      let w := { World.blank with files := ⟨[([[0xff]], .directory)], []⟩ }
      let after := k.call.perform w
      Backend.ofDestination "file:///%FF" {} = .ok (.filesystem base) ∧
      after.completions = [⟨Telemetry.completionDetailsEvent, [], some (.object
        [ ("gen_ai.input.messages_ref", .string "/\ufffd/r_input.json"),
          ("gen_ai.output.messages_ref", .string "/\ufffd/r_output.json") ])⟩] ∧
      after.files.read (Filesystem.objectPath base "r_input.json") = .ok "[]" ∧
      after.files.read (Text.bytes "/\ufffd/r_input.json") = .error .notFound := by
  intro base k w after
  have hbackend : Backend.ofDestination "file:///%FF" {} = .ok (.filesystem base) := by
    decide +kernel
  obtain ⟨_, hfiles, hcompletions⟩ := k.perform_eq (w := w) rfl
  have huploaded : (Filesystem.uploadAll base k.objects w.files).1
      = [.ok "/\ufffd/r_input.json", .ok "/\ufffd/r_output.json"] := by
    decide
  refine ⟨hbackend, ?_, ?_, ?_⟩
  . rw [hcompletions, huploaded]
    rfl
  . rw [hfiles]
    decide
  . rw [hfiles]
    decide

end Emission
end ChatTelemetry
