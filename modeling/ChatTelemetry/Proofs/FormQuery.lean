import ChatTelemetry.Proofs.PercentEncoding
import ChatTelemetry.Url.Query

/-!
This module shows that a text is got back from the query that it is written into, and that nothing
in it can be taken for a mark of the query.
-/

namespace ChatTelemetry

namespace Url

/-! ### The text of a name or a value -/

theorem not_staysInForm_plus : staysInForm '+' = false := by
  decide

theorem mem_percentByte {c : Char} {b : UInt8} (h : c ∈ Text.percentByte b)
    : c = '%' ∨ staysInForm c = true := by
  have hchars : ∀ c ∈ Text.percentChars, (c == '%' || staysInForm c) = true :=
    List.all_eq_true.mp (by decide)
  simpa using hchars c (Text.mem_percentByte h)

theorem mem_formEncode {c : Char} {cs : List Char} (h : c ∈ formEncode cs)
    : c = '+' ∨ c = '%' ∨ staysInForm c = true := by
  obtain ⟨d, -, hc⟩ := List.mem_flatMap.mp h
  split at hc
  next => exact .inl (List.mem_singleton.mp hc)
  next =>
    split at hc
    next hstays =>
      rw [List.mem_singleton.mp hc]
      exact .inr (.inr hstays)
    next =>
      obtain ⟨b, -, hb⟩ := List.mem_flatMap.mp hc
      exact .inr (mem_percentByte hb)

/-- No mark that stands between names and values stands in one of them. -/
theorem not_mark_of_mem_formEncode {c : Char} {cs : List Char} (h : c ∈ formEncode cs)
    : c ∉ "&=#".toList := by
  intro hmark
  have hmarks : c = '&' ∨ c = '=' ∨ c = '#' := by simpa using hmark
  rcases mem_formEncode h with rfl | rfl | hstays
  . simp at hmarks
  . simp at hmarks
  . rcases hmarks with rfl | rfl | rfl
    . exact absurd hstays (by decide)
    . exact absurd hstays (by decide)
    . exact absurd hstays (by decide)

theorem map_plus_percentBytes (bytes : List UInt8)
    : ((bytes.flatMap Text.percentByte).map fun c => if c == '+' then ' ' else c)
        =
      bytes.flatMap Text.percentByte := by
  refine (List.map_congr_left ?_).trans (List.map_id _)
  intro c hc
  obtain ⟨b, -, hb⟩ := List.mem_flatMap.mp hc
  apply if_neg
  intro hplus
  obtain rfl : c = '+' := by simpa using hplus
  rcases mem_percentByte hb with h | h
  . contradiction
  . rw [not_staysInForm_plus] at h
    contradiction

theorem formDecode_formEncode_cons (c : Char) (cs : List Char)
    : formDecode (formEncode (c :: cs))
        =
      String.utf8EncodeChar c ++ formDecode (formEncode cs) := by
  unfold formDecode formEncode
  rw [List.flatMap_cons, List.map_append]
  split
  next h =>
    obtain rfl : c = ' ' := by simpa using h
    exact Text.percentDecode_cons (by decide) _
  next =>
    split
    next hstays =>
      have hplus : c ≠ '+' := by
        rintro rfl
        rw [not_staysInForm_plus] at hstays
        contradiction
      have hpercent : c ≠ '%' := by
        rintro rfl
        contradiction
      rw [List.map_singleton, if_neg (by simpa using hplus)]
      exact Text.percentDecode_cons hpercent _
    next => rw [map_plus_percentBytes, Text.percentDecode_percentBytes]

theorem formDecode_formEncode (cs : List Char) : formDecode (formEncode cs) = Text.utf8 cs := by
  induction cs with
  | nil => rfl
  | cons c cs ih => rw [formDecode_formEncode_cons, ih, Text.utf8, Text.utf8, List.flatMap_cons]

/-- A text that has been written into a query is read back as it is. -/
theorem ofUtf8?_formDecode_formEncode (cs : List Char)
    : Text.ofUtf8? (formDecode (formEncode cs)) = some cs := by
  rw [formDecode_formEncode, Text.ofUtf8?_utf8]

theorem formEncode_injective {cs ds : List Char} (h : formEncode cs = formEncode ds) : cs = ds := by
  apply Option.some.inj
  rw [← ofUtf8?_formDecode_formEncode cs, ← ofUtf8?_formDecode_formEncode ds, h]

end Url

end ChatTelemetry
