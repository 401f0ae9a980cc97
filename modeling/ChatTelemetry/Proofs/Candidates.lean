import ChatTelemetry.Payload.Google
import ChatTelemetry.Payload.OpenAi
import ChatTelemetry.Proofs.WireForm

/-!
This module shows how the two mappings of candidates agree: the one that drops candidates without
content gives the choices of the other that have a message, in the same order and unchanged.
-/

namespace ChatTelemetry

open Json (Value)

namespace Chat

/-! ### Both mappings -/

def Candidate.choice (c : Candidate) : Choice :=
  ⟨c.finishReason, c.turn.map Turn.toMessage⟩

theorem normalizeOutput_keepEmpty (cs : List Candidate)
    : normalizeOutput .keepEmpty cs = cs.map Candidate.choice := by
  unfold normalizeOutput
  rw [← List.filterMap_eq_map]
  congr 1
  funext c
  cases hturn : c.turn <;> simp [Candidate.choice, hturn]

theorem normalizeOutput_skipEmpty (cs : List Candidate)
    : normalizeOutput .skipEmpty cs
        =
      (normalizeOutput .keepEmpty cs).filter fun c => c.message.isSome := by
  rw [normalizeOutput_keepEmpty, ← List.filterMap_eq_map, List.filter_filterMap]
  unfold normalizeOutput
  congr 1
  funext c
  cases hturn : c.turn <;> simp [Candidate.choice, hturn, Option.filter]

/-! ### Wire form -/

/-- The array without the objects whose only key is the finish reason. -/
def withoutBareReasons : Value → Value
  | .array vs => .array (vs.filter fun v => v.keys ≠ ["finish_reason"])
  | v => v

theorem Choice.keys_toWire_eq_iff (c : Choice)
    : c.toWire.keys = ["finish_reason"] ↔ c.message = none := by
  unfold toWire
  cases c.message with
  | none => simp [Value.keys]
  | some m => simp [Value.keys]

theorem choicesToWire_filter (choices : List Choice)
    : choicesToWire (choices.filter fun c => c.message.isSome)
        =
      withoutBareReasons (choicesToWire choices) := by
  unfold choicesToWire
  dsimp only [withoutBareReasons]
  rw [List.filter_map]
  congr 2
  apply List.filter_congr
  intro c _
  cases hmessage : c.message <;> simp [Choice.keys_toWire_eq_iff, hmessage]

/-! ### Candidates of a format -/

/--
The one mapping makes one choice of each candidate, in its place: it has a message if and only if
the candidate has content, and it has that candidate's own finish reason. The other mapping leaves
the choices with a message as they are and drops the others, on the wire those with a finish reason
alone.
-/
structure KeepsCandidates (candidate : κ → Candidate) (content : κ → Option ρ) (turn : ρ → Turn)
    (reason : κ → Option String) (reasonOf : String → FinishReason) : Prop where
  length_eq (raw : List κ)
    : (normalizeOutput .keepEmpty (raw.map candidate)).length = raw.length
  choice {raw : List κ} {j : Nat} {k : κ} (h : raw[j]? = some k)
    : ∃ c, (normalizeOutput .keepEmpty (raw.map candidate))[j]? = some c ∧
        c.message = (content k).map (fun r => (turn r).toMessage) ∧
        (reason k = none → c.finishReason.text = "") ∧
        ∀ r, reason k = some r → c.finishReason = reasonOf r
  skipEmpty_eq (raw : List κ)
    : normalizeOutput .skipEmpty (raw.map candidate)
        = (normalizeOutput .keepEmpty (raw.map candidate)).filter fun c => c.message.isSome
  toWire_skipEmpty (raw : List κ)
    : choicesToWire (normalizeOutput .skipEmpty (raw.map candidate))
        = withoutBareReasons (choicesToWire (normalizeOutput .keepEmpty (raw.map candidate)))

/-- It is enough that each candidate alone has its content and its finish reason. -/
theorem keepsCandidates_of_candidate {candidate : κ → Candidate} {content : κ → Option ρ}
    {turn : ρ → Turn} {reason : κ → Option String} {reasonOf : String → FinishReason}
    (hturn : ∀ k, (candidate k).turn = (content k).map turn)
    (hreason : ∀ k, (candidate k).finishReason = ((reason k).map reasonOf).getD .absent)
    : KeepsCandidates candidate content turn reason reasonOf where
  length_eq raw := by simp [normalizeOutput_keepEmpty]
  choice {raw j k} h := by
    refine ⟨(candidate k).choice, ?_, ?_, ?_, ?_⟩
    . rw [normalizeOutput_keepEmpty, List.map_map, List.getElem?_map, h]
      rfl
    . simp [Candidate.choice, hturn, Function.comp_def]
    . intro hnone
      simp [Candidate.choice, hreason, hnone, FinishReason.absent, FinishReason.text]
    . intro r hr
      simp [Candidate.choice, hreason, hr]
  skipEmpty_eq raw := normalizeOutput_skipEmpty _
  toWire_skipEmpty raw := by rw [normalizeOutput_skipEmpty, choicesToWire_filter]

end Chat

namespace Payload

open Chat (KeepsCandidates choicesToWire keepsCandidates_of_candidate normalizeOutput)

/-- In either format the mappings differ by the candidates without content, and by nothing else. -/
theorem skipped_candidates_are_those_without_content
    : KeepsCandidates Google.Choice.candidate (·.content) Google.Content.turn (·.finishReason)
        Google.finishReasonOf
        ∧
      KeepsCandidates OpenAi.Choice.candidate (·.message) OpenAi.Message.turn (·.finishReason)
        OpenAi.finishReasonOf := by
  constructor
  . exact keepsCandidates_of_candidate (fun _ => rfl) (fun _ => rfl)
  . exact keepsCandidates_of_candidate (fun _ => rfl) (fun _ => rfl)

/-- Content without parts is content: only the candidate between the two others is dropped. -/
theorem skipped_candidates_are_those_without_content_at_all
    : let blocked : Google.Choice := ⟨none, some "SAFETY", none⟩
      let stopped : Google.Choice := ⟨some ⟨some "model", some []⟩, some "STOP", none⟩
      let raw := [⟨some ⟨none, none⟩, none, none⟩, blocked, stopped]
      let kept := normalizeOutput .keepEmpty (raw.map Google.Choice.candidate)
      let skipped := normalizeOutput .skipEmpty (raw.map Google.Choice.candidate)
      (∃ c, kept[0]? = some c ∧ c.message = some ⟨.other "", []⟩ ∧ c.finishReason.text = "") ∧
      (∃ c, kept[1]? = some c ∧ c.message = none ∧ c.finishReason = .other "SAFETY") ∧
      skipped = [⟨.other "", some ⟨.other "", []⟩⟩, ⟨.stop, some ⟨.assistant, []⟩⟩] ∧
      choicesToWire skipped = Chat.withoutBareReasons (choicesToWire kept) := by
  intro blocked stopped raw kept skipped
  obtain ⟨hgoogle, -⟩ := skipped_candidates_are_those_without_content
  obtain ⟨empty, hempty, hmessage, hnoReason, -⟩ := hgoogle.choice (show raw[0]? = some _ from rfl)
  obtain ⟨bare, hbare, hnoMessage, -, hreason⟩ := hgoogle.choice (show raw[1]? = some _ from rfl)
  refine ⟨⟨empty, hempty, hmessage, hnoReason rfl⟩, ?_, ?_, ?_⟩
  . exact ⟨bare, hbare, hnoMessage, hreason _ rfl⟩
  . exact hgoogle.skipEmpty_eq raw
  . exact hgoogle.toWire_skipEmpty raw

end Payload
end ChatTelemetry
