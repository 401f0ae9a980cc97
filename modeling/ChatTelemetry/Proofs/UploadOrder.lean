import ChatTelemetry.Proofs.Interleaving
import ChatTelemetry.Proofs.Retention

/-!
This module shows that it makes no difference in what order the uploads of a completion are carried
out, even if they take turns in making directories and writing files.
-/

namespace ChatTelemetry

namespace Emission

open Json (Value)
open Storage (Filesystem.uploadAll Filesystem.Underway Filesystem.follow_of_perm
  Filesystem.uploadAll_of_perm Filesystem.objectPath isObjectName locatorOf objectNames Path)
open Telemetry (Attribute)

/-- All objects of a response go into one directory. -/
theorem Details.parent_objects (d : Details) (base : List UInt8) (responseId : String)
    : ∃ above, ∀ o ∈ d.objects responseId, isObjectName o.1 = true →
        (Path.ofBytes (Filesystem.objectPath base o.1)).parent = above := by
  refine ⟨{ Path.ofBytes base with
    names := (Path.ofBytes base).names ++
      (objectNames (Collection.input.objectName responseId)).dropLast }, ?_⟩
  intro o ho hname
  obtain ⟨c, hc⟩ := mem_names_objects (List.mem_map_of_mem ho)
  rw [Storage.Filesystem.parent_objectPath base hname, hc]
  rw [(Collection.areSiblings_objectName c .input responseId).objectNames_eq]

/-- What becomes of a completion that is stored in files: it shows where each collection goes alone,
and the files are those of one upload after another. -/
theorem Emitter.completion_filesystem {e : Emitter} (hcapture : e.capture.messageContent = true)
    {w : World} (hw : w.isSuppressed = false) {base : List UInt8}
    (hbackend : (e.storage.lookup w).backend = some (.filesystem base))
    (attributes : List Attribute) (d : Details) (responseId : String)
    : let after := e.completion (Call.performAt 1) attributes d .reference responseId w
      after.events = w.events ++ [⟨Telemetry.completionDetailsEvent, attributes,
        some (.object (d.collections.map fun p => (p.1.refKey, .string (locatorOf
          (some (Storage.Filesystem.upload base (p.1.objectName responseId) p.2
            w.files).result)))))⟩] ∧
      after.files = (Filesystem.uploadAll base (d.objects responseId) w.files).2 := by
  intro after
  let begun := w.recordAll (e.measuredEffects attributes d ++
    [.logged (debugLog "recording completion details as references"
      [("response_id", .quoted responseId)])])
  have hafter : after = _ :=
    completion_reference_eq hw hcapture (Call.performAt 1) attributes d responseId
  have hlookup : (e.storage.lookup begun).backend = some (.filesystem base) := by
    rw [Storage.Handle.lookup_recordAll, hbackend]
  have hbegun : begun.events = w.events := by
    rw [World.events_recordAll, List.filterMap_append, (e.measuredEffects_quiet attributes d).1]
    simp [Effect.event?]
  obtain ⟨hfields, hevents, _⟩ := storeCollections_eq (Call.performAt_of_suppressed 1) e.storage
    responseId d.collections begun
  rw [hafter]
  refine ⟨?_, ?_⟩
  . rw [World.record_eq_recordAll, World.events_recordAll, hevents, hbegun, hfields]
    unfold Storage.Handle.answer
    rw [hlookup]
    rfl
  . exact (storeCollections_filesystem (Call.performAt_of_suppressed 1) responseId d.collections
      hlookup).2

/--
It makes no difference in what order the uploads of a completion are carried out. If they follow one
another in any order, the locators are those that the completion shows in its event, and the same
files stand. The same is true if they take turns: each of them has two, one in which its directories
are made and one in which its file is written, in the order of any schedule.
-/
theorem upload_order_does_not_matter {e : Emitter} (hcapture : e.capture.messageContent = true)
    {w : World} (hw : w.isSuppressed = false) {base : List UInt8}
    (hbackend : (e.storage.resolve w).1 = some (.filesystem base)) (attributes : List Attribute)
    (d : Details) (responseId : String)
    : let after := (Call.mk e attributes (.completion d .reference responseId)).perform w
      let objects := d.objects responseId
      ∃ locator : String → String,
        after.events = w.events ++ [⟨Telemetry.completionDetailsEvent, attributes,
          some (.object (d.collections.map fun p =>
            (p.1.refKey, .string (locator (p.1.objectName responseId)))))⟩] ∧
        (∀ order, order.Perm objects →
          let uploaded := Filesystem.uploadAll base order w.files
          uploaded.1.length = objects.length ∧
          (∀ o r, (o, r) ∈ order.zip uploaded.1 → locatorOf (some r) = locator o.1) ∧
          uploaded.2.Same after.files) ∧
        ∀ schedule, schedule.Perm (objects ++ objects) →
          let s := (Filesystem.Underway.start w.files).follow base schedule
          (∀ o ∈ objects, ∃ r, s.progress o.1 = .finished r ∧
            locatorOf (some r) = locator o.1) ∧
          s.files.Same after.files := by
  intro after objects
  obtain ⟨above, habove⟩ := d.parent_objects base responseId
  have hnames := d.nodup_objects responseId
  have hlookup : (e.storage.lookup w).backend = some (.filesystem base) := by
    rw [← hbackend, Storage.Handle.resolve_eq]
  have hevents := (Emitter.completion_filesystem hcapture hw hlookup attributes d responseId).1
  have hfiles : after.files = (Filesystem.uploadAll base objects w.files).2 :=
    (Emitter.completion_filesystem hcapture hw hlookup attributes d responseId).2
  -- The locators are those of one schedule; each of them is what its upload alone comes to.
  let locator (name : String) : String :=
    (((Filesystem.Underway.start w.files).follow base (objects ++ objects)).progress name).locator
  have hlocator : ∀ o ∈ objects,
      locatorOf (some (Storage.Filesystem.upload base o.1 o.2 w.files).result) = locator o.1 := by
    intro o ho
    obtain ⟨r, hr, hlocator⟩ := (Filesystem.follow_of_perm hnames habove (.refl _) w.files).1 o ho
    rw [← hlocator]
    unfold locator
    rw [hr]
    rfl
  refine ⟨locator, ?_, ?_, ?_⟩
  . have hrefs : (d.collections.map fun p => (p.1.refKey, Value.string (locatorOf
          (some (Storage.Filesystem.upload base (p.1.objectName responseId) p.2
            w.files).result))))
        = d.collections.map fun p =>
          (p.1.refKey, Value.string (locator (p.1.objectName responseId))) := by
      apply List.map_congr_left
      intro p hp
      rw [hlocator (p.1.objectName responseId, p.2) (List.mem_map_of_mem hp)]
    rw [← hrefs]
    exact hevents
  . intro order horder uploaded
    obtain ⟨hlocators, hsame⟩ := Filesystem.uploadAll_of_perm hnames habove horder w.files
    refine ⟨?_, ?_, ?_⟩
    . rw [Storage.Filesystem.length_uploadAll]
      exact horder.length_eq
    . intro o r hmem
      rw [hlocators o r hmem]
      exact hlocator o (horder.mem_iff.mp (List.of_mem_zip hmem).1)
    . rw [hfiles]
      exact hsame
  . intro schedule hschedule s
    obtain ⟨hlocators, hsame⟩ := Filesystem.follow_of_perm hnames habove hschedule w.files
    refine ⟨?_, ?_⟩
    . intro o ho
      obtain ⟨r, hr, hr'⟩ := hlocators o ho
      exact ⟨r, hr, hr'.trans (hlocator o ho)⟩
    . rw [hfiles]
      exact hsame

/-- Three uploads of which one fails, since a directory is in the place of its file. All directories
are made first, and the files are written the other way round. -/
theorem upload_order_does_not_matter_beside_a_directory
    : let base := Text.bytes "/store"
      let e : Emitter :=
        { storage := .injected (.filesystem base), capture := { messageContent := true } }
      let w : World :=
        { World.blank with
          files := ⟨[([Text.bytes "store", Text.bytes "r_output.json"], .directory),
            ([Text.bytes "store"], .directory)], []⟩ }
      let d : Details := { systemInstructions := some [⟨.system, []⟩] }
      let after := (Call.mk e [] (.completion d .reference "r")).perform w
      let s := (Filesystem.Underway.start w.files).follow base
        (d.objects "r" ++ (d.objects "r").reverse)
      after.events = [⟨Telemetry.completionDetailsEvent, [], some (.object
          [ ("gen_ai.input.messages_ref", .string "/store/r_input.json"),
            ("gen_ai.output.messages_ref", .string "/dev/null"),
            ("gen_ai.system.instructions_ref", .string "/store/r_system_instructions.json") ])⟩] ∧
        s.progress "r_output.json" = .finished (.error (.io .isADirectory)) ∧
        after.files.find? [Text.bytes "store", Text.bytes "r_input.json"] = some (.file "[]") := by
  intro base e w d after s
  obtain ⟨locator, hevents, _, hschedules⟩ :=
    @upload_order_does_not_matter e rfl w rfl base rfl [] d "r"
  obtain ⟨hlocators, hsame⟩ := hschedules (d.objects "r" ++ (d.objects "r").reverse)
    ((List.reverse_perm _).append_left _)
  have hrefs : d.collections.map (fun p =>
        (p.1.refKey, Value.string (locator (p.1.objectName "r"))))
      = d.collections.map fun p =>
        (p.1.refKey, Value.string (s.progress (p.1.objectName "r")).locator) := by
    apply List.map_congr_left
    rintro ⟨c, v⟩ hc
    obtain ⟨r, hr, hlocator⟩ := hlocators (c.objectName "r", v)
      (List.mem_map.mpr ⟨(c, v), hc, rfl⟩)
    rw [← hlocator, show s.progress (c.objectName "r") = .finished r from hr]
    rfl
  refine ⟨?_, by decide, ?_⟩
  . have hinput : (s.progress "r_input.json").locator = "/store/r_input.json" := by decide
    have houtput : (s.progress "r_output.json").locator = "/dev/null" := by decide
    have hsystem : (s.progress "r_system_instructions.json").locator
        = "/store/r_system_instructions.json" := by decide
    rw [hevents, hrefs, ← hinput, ← houtput, ← hsystem]
    rfl
  . rw [hsame.entry]
    decide

end Emission
end ChatTelemetry
