import ChatTelemetry.Payload.OpenAi
import ChatTelemetry.Proofs.Segments

/-!
This module shows which texts are taken for content given in base64, and as what.
-/

namespace ChatTelemetry

namespace Payload.OpenAi

theorem dataUri?_eq_some_iff {url mimeType encoded : String}
    : dataUri? url = some (mimeType, encoded) ↔
        ',' ∉ mimeType.toList ∧ url = "data:" ++ mimeType ++ ";base64," ++ encoded := by
  have hcomma : ',' ∉ ";base64".toList := by decide
  unfold dataUri?
  simp only [Option.bind_eq_bind, Option.bind_eq_some_iff, Option.pure_def, Prod.exists,
    Text.dropStart?_eq_some_iff, Text.cutAt?_eq_some_iff, Text.dropEnd?_eq_some_iff,
    Option.some.injEq, Prod.mk.injEq]
  constructor
  . rintro ⟨rest, hurl, header, after, ⟨hheader, hrest⟩, mime, rfl, rfl, rfl⟩
    refine ⟨?_, String.toList_inj.mp ?_⟩
    . intro h
      rw [String.toList_ofList] at h
      exact hheader (List.mem_append_left _ h)
    . simp [hurl, hrest]
  . rintro ⟨hmime, rfl⟩
    refine ⟨mimeType.toList ++ ";base64,".toList ++ encoded.toList, by simp,
      mimeType.toList ++ ";base64".toList, encoded.toList, ⟨?_, by simp⟩, mimeType.toList, rfl,
      String.ofList_toList, String.ofList_toList⟩
    intro h
    exact (List.mem_append.mp h).elim hmime hcomma

theorem dataUri?_eq_none {url : String} (h : ¬"data:".toList <+: url.toList)
    : dataUri? url = none := by
  unfold dataUri?
  rw [Text.dropStart?_eq_none_iff.mpr h]
  rfl

end Payload.OpenAi
end ChatTelemetry
