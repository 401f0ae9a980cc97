import ChatTelemetry.Proofs.Destination

/-!
This module shows how a destination with a scheme is read if nothing in its text is passed over.
-/

namespace ChatTelemetry

namespace Text

/-- A text that is read from its first character to its last, with nothing left out. -/
structure IsTight (cs : List Char) : Prop where
  first : ∀ c ∈ cs.head?, isBlank c = false ∧ ' ' < c
  last : ∀ c ∈ cs.getLast?, isBlank c = false ∧ ' ' < c
  breaks : ∀ c ∈ cs, Url.isTabOrLineBreak c = false

theorem not_isTabOrLineBreak {c : Char} (h : 0x20 ≤ c.toNat) : Url.isTabOrLineBreak c = false := by
  rw [Bool.eq_false_iff]
  intro hbreak
  simp only [Url.isTabOrLineBreak, Bool.or_eq_true, beq_iff_eq] at hbreak
  rcases hbreak with (rfl | rfl) | rfl
  . exact absurd h (by decide)
  . exact absurd h (by decide)
  . exact absurd h (by decide)

variable {cs : List Char}

theorem IsTight.trim_eq (h : IsTight cs) : trim cs = cs :=
  strip_eq_self (fun c hc => (h.first c hc).1) (fun c hc => (h.last c hc).1)

theorem IsTight.read_eq (h : IsTight cs)
    : ((strip (· ≤ ' ') cs).filter fun c => !Url.isTabOrLineBreak c) = cs := by
  have hvisible : ∀ {c : Char}, ' ' < c → decide (c ≤ ' ') = false := by
    intro c hc
    rw [decide_eq_false_iff_not, Char.not_le]
    exact hc
  rw [strip_eq_self (fun c hc => hvisible (h.first c hc).2) (fun c hc => hvisible (h.last c hc).2)]
  rw [List.filter_eq_self]
  intro c hc
  rw [h.breaks c hc]
  rfl

theorem IsTight.append {scheme rest : List Char} (h : IsTight scheme) (hscheme : scheme ≠ [])
    (hrest : rest ≠ []) (hlast : ∀ c ∈ rest.getLast?, isBlank c = false ∧ ' ' < c)
    (hlow : ∀ c ∈ rest, 0x20 ≤ c.toNat)
    : IsTight (scheme ++ rest) where
  first c hc := by
    rw [List.head?_append_of_ne_nil _ hscheme] at hc
    exact h.first c hc
  last c hc := by
    rw [List.getLast?_append_of_ne_nil _ hrest] at hc
    exact hlast c hc
  breaks c hc := by
    rcases List.mem_append.mp hc with hc | hc
    . exact h.breaks c hc
    . exact not_isTabOrLineBreak (hlow c hc)

end Text

open Text (IsTight)

namespace Url

variable {rest : List Char}

theorem parse_of_file (h : IsTight ("file:".toList ++ rest))
    : parse (.ofList ("file:".toList ++ rest)) = fileUrl rest := by
  unfold parse
  rw [String.toList_ofList, h.read_eq]
  rfl

theorem parse_of_gs (h : IsTight ("gs:".toList ++ rest))
    : parse (.ofList ("gs:".toList ++ rest)) = otherUrl "gs".toList rest := by
  unfold parse
  rw [String.toList_ofList, h.read_eq]
  rfl

end Url

namespace Storage

variable {rest : List Char} {u : Url} {options : Options}

theorem hasScheme_append (scheme rest : List Char)
    : hasScheme (scheme ++ "://".toList ++ rest) = true := by
  unfold hasScheme
  rw [Text.occursIn_iff]
  exact List.infix_append scheme "://".toList rest

theorem ofDestination_of_file {path : List UInt8} (h : IsTight ("file://".toList ++ rest))
    (hurl : Url.fileUrl ('/' :: '/' :: rest) = .ok u) (hpath : u.filePath? = some path)
    : Backend.ofDestination (.ofList ("file://".toList ++ rest)) options
        =
      .ok (.filesystem path) := by
  have hparse : Url.parse (.ofList ("file://".toList ++ rest)) = .ok u :=
    (Url.parse_of_file h).trans hurl
  have hscheme : hasScheme ("file://".toList ++ rest) = true := hasScheme_append "file".toList rest
  unfold Backend.ofDestination
  dsimp only
  rw [String.toList_ofList, h.trim_eq, if_neg (by simp), if_pos hscheme, hparse]
  dsimp only
  rw [if_pos (Url.fileUrl_ok hurl).1, hpath]

theorem ofDestination_of_gs (h : IsTight ("gs://".toList ++ rest))
    (hurl : Url.otherUrl "gs".toList ('/' :: '/' :: rest) = .ok u)
    : Backend.ofDestination (.ofList ("gs://".toList ++ rest)) options
        =
      (Bucket.make (.ofList (u.host?.getD [])) (.ofList u.path) options.endpoint
        options.token).map .bucket := by
  have hparse : Url.parse (.ofList ("gs://".toList ++ rest)) = .ok u :=
    (Url.parse_of_gs h).trans hurl
  have hscheme : hasScheme ("gs://".toList ++ rest) = true := hasScheme_append "gs".toList rest
  have hgs : u.scheme = "gs".toList := (Url.otherUrl_ok hurl).1
  unfold Backend.ofDestination
  dsimp only
  rw [String.toList_ofList, h.trim_eq, if_neg (by simp), if_pos hscheme, hparse]
  dsimp only
  rw [hgs, if_neg (by decide), if_pos rfl]

end Storage
end ChatTelemetry
