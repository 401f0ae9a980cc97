import ChatTelemetry.Proofs.Places
import ChatTelemetry.Proofs.ReadBack
import ChatTelemetry.Proofs.Recognition

/-!
This module shows what becomes of the texts that tools are given and return: each that the grammar
has as a tree within the nesting limit is recorded as the tree, and every other one as it is.
-/

namespace ChatTelemetry.Payload.OpenAi

open Json (Value nestingLimit)
open Json.Grammar (IsText)

/-! ### The tree that a text is -/

theorem structured_of_isText {raw : String} {v : Value} (h : IsText raw.toList v)
    (hdepth : v.depth ≤ nestingLimit)
    : structured raw = v.canonical := by
  rw [structured, Json.read_eq_ok_iff.mpr ⟨v, h, hdepth, rfl⟩]

theorem structured_of_not_isText {raw : String}
    (h : ∀ v, IsText raw.toList v → nestingLimit < v.depth)
    : structured raw = .string raw := by
  unfold structured
  cases hread : Json.read raw with
  | error fault => rfl
  | ok w =>
    obtain ⟨v, htext, hdepth, -⟩ := Json.read_eq_ok_iff.mp hread
    exact absurd hdepth (Nat.not_le.mpr (h v htext))

/-! ### The tree in a message -/

/-- The text `raw` is recorded as `data`, be it given to a tool or returned by one. -/
structure IsRecordedAs (raw : String) (data : Value) : Prop where
  given {m : Message} {k : Nat} {c : ToolCall} {f : FunctionCall} (hm : roleOf m.role ≠ .tool)
    (hc : (m.toolCalls.getD [])[k]? = some c) (hf : c.function = some f)
    (hraw : f.arguments = some raw)
    : ∃ id name, m.turn.toMessage.parts[m.contentCount + k]?
        = some (.toolCallRequest id name (some data))
  returned {m : Message} {content : Content} (hm : roleOf m.role = .tool)
    (hcontent : m.content = some content) (hraw : content.plainText = raw)
    : ∃ id, m.turn.toMessage.parts = [.toolCallResponse id m.name (some data)]

theorem isRecordedAs_structured (raw : String) : IsRecordedAs raw (structured raw) where
  given {m k c f} hm hc hf hraw := by
    have harguments : (c.function.bind (·.arguments)).map structured = some (structured raw) := by
      rw [hf, Option.bind_some, hraw, Option.map_some]
    rw [Message.part_of_toolCall hm hc, ← harguments]
    exact ⟨_, _, rfl⟩
  returned {m content} hm hcontent hraw := by
    rw [Message.parts_of_tool hm, hcontent, Option.map_some, hraw]
    exact ⟨_, rfl⟩

/--
The text of a tree of whole numbers is recorded as this tree, unless it is nested too deep. Whatever
else the grammar has for a tree is recorded as the canonical tree, and what is left as a string.
-/
theorem tool_data_survives_its_text_form
    : (∀ v : Value, v.hasWholeNumbers → v.canonical = v → v.depth ≤ nestingLimit →
        IsRecordedAs v.text v)
        ∧
      (∀ raw v, IsText raw.toList v → v.depth ≤ nestingLimit → IsRecordedAs raw v.canonical)
        ∧
      ∀ raw, (∀ v, IsText raw.toList v → nestingLimit < v.depth) →
        IsRecordedAs raw (.string raw) := by
  have htext : ∀ raw v, IsText raw.toList v → v.depth ≤ nestingLimit →
      IsRecordedAs raw v.canonical := by
    intro raw v h hdepth
    rw [← structured_of_isText h hdepth]
    exact isRecordedAs_structured raw
  refine ⟨?_, htext, ?_⟩
  . intro v hwhole hcanonical hdepth
    have hchars : IsText v.text.toList v := by
      rw [Value.text, String.toList_ofList]
      exact (Json.isText_chars_iff hwhole).mpr rfl
    have hrecorded := htext v.text v hchars hdepth
    rw [hcanonical] at hrecorded
    exact hrecorded
  . intro raw h
    rw [← structured_of_not_isText h]
    exact isRecordedAs_structured raw

/-- Empty arrays inside one another are recorded as arrays up to the limit, and then as texts. -/
theorem tool_data_survives_its_text_form_to_the_limit
    : IsRecordedAs (Emission.nested 126).text (Emission.nested 126)
        ∧
      IsRecordedAs (Emission.nested 127).text (.string (Emission.nested 127).text)
        ∧
      IsRecordedAs "[1," (.string "[1,") := by
  obtain ⟨hwritten, -, hother⟩ := tool_data_survives_its_text_form
  have hnested (n : Nat) := Emission.isReadable_nested n
  refine ⟨?_, ?_, ?_⟩
  . apply hwritten _ (hnested 126).whole (hnested 126).canonical
    rw [Emission.depth_nested]
    decide
  . apply hother
    intro v hv
    rw [Value.text, String.toList_ofList] at hv
    rw [(Json.isText_chars_iff (hnested 127).whole).mp hv, Emission.depth_nested]
    decide
  . apply hother
    intro v hv
    have hfault : Json.read "[1," = .error .truncated := by rfl
    by_contra hdepth
    have hread := Json.read_eq_ok_iff.mpr ⟨v, hv, Nat.not_lt.mp hdepth, rfl⟩
    cases hfault.symm.trans hread

end ChatTelemetry.Payload.OpenAi
