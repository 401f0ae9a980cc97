import ChatTelemetry.Proofs.ObjectName

/-!
This module shows what can be told of a path from how it is shown: all of it if it is the bytes of a
text, and always the name of the object that it leads to.
-/

namespace ChatTelemetry

namespace Storage

/-- The bytes are those of a text. -/
def IsTextual (bs : List UInt8) : Prop :=
  ∃ s, bs = Text.bytes s

theorem shownPath_bytes (s : String) : shownPath (Text.bytes s) = s := by
  rw [shownPath, Text.bytes, Text.ofUtf8Lossy_utf8, String.ofList_toList]

/-- A path is what it is shown as just if it is the bytes of a text. -/
theorem bytes_shownPath_iff {bs : List UInt8} : Text.bytes (shownPath bs) = bs ↔ IsTextual bs := by
  constructor
  . intro h
    exact ⟨_, h.symm⟩
  . rintro ⟨s, rfl⟩
    rw [shownPath_bytes]

theorem bytes_append_slash (s t : String)
    : Text.bytes (s ++ "/" ++ t) = Text.bytes s ++ Path.slash :: Text.bytes t := by
  simp only [Text.bytes, String.toList_append, Text.utf8_append, List.append_assoc]
  rfl

theorem isTextual_append_slash_iff {bs : List UInt8} (s : String)
    : IsTextual (bs ++ Path.slash :: Text.bytes s) ↔ IsTextual bs := by
  constructor
  . rintro ⟨whole, h⟩
    obtain ⟨front, rfl⟩ := Text.exists_eq_utf8_of_append (by decide) h.symm
    refine ⟨.ofList front, ?_⟩
    rw [Text.bytes, String.toList_ofList]
  . rintro ⟨front, rfl⟩
    exact ⟨front ++ "/" ++ s, (bytes_append_slash front s).symm⟩

theorem shownPath_append_slash (bs : List UInt8) (s : String)
    : shownPath (bs ++ Path.slash :: Text.bytes s) = shownPath bs ++ "/" ++ s := by
  have hchars := Text.ofUtf8Lossy_append_of_lt (b := Path.slash) (by decide) bs (Text.bytes s)
  have hslash : Char.ofNat Path.slash.toNat = '/' := rfl
  apply String.toList_injective
  rw [shownPath, hchars, Text.bytes, Text.ofUtf8Lossy_utf8]
  simp [shownPath, hslash]

namespace Filesystem

/-- What stands before the name in the path of an object: nothing, or it ends in a slash. -/
theorem objectPath_cases (base : List UInt8)
    : (base = [] ∧ ∀ name, objectPath base name = Text.bytes name) ∨
        ∃ front, (IsTextual front ↔ IsTextual base) ∧
          ∀ name, objectPath base name = front ++ Path.slash :: Text.bytes name := by
  by_cases hempty : base = []
  . exact .inl ⟨hempty, fun name => if_pos hempty⟩
  . right
    by_cases hlast : base.getLast? = some Path.slash
    . obtain ⟨front, rfl⟩ := List.getLast?_eq_some_iff.mp hlast
      refine ⟨front, (isTextual_append_slash_iff "").symm, ?_⟩
      intro name
      rw [objectPath, if_neg hempty, if_pos hlast, List.append_assoc, List.singleton_append]
    . refine ⟨base, Iff.rfl, ?_⟩
      intro name
      rw [objectPath, if_neg hempty, if_neg hlast]

/-- The locator of an object is its path just if the path of the base is the bytes of a text. -/
theorem bytes_locator_iff {base : List UInt8} {name : String}
    : Text.bytes (shownPath (objectPath base name)) = objectPath base name ↔ IsTextual base := by
  rw [bytes_shownPath_iff]
  obtain ⟨rfl, hpath⟩ | ⟨front, hfront, hpath⟩ := objectPath_cases base
  . rw [hpath]
    exact ⟨fun _ => ⟨"", rfl⟩, fun _ => ⟨name, rfl⟩⟩
  . rw [hpath, isTextual_append_slash_iff, hfront]

/-- The locators of objects below one base differ in the names of the objects alone. -/
theorem exists_locator_eq_append (base : List UInt8)
    : ∃ front : String, ∀ name, shownPath (objectPath base name) = front ++ name := by
  obtain ⟨rfl, hpath⟩ | ⟨front, -, hpath⟩ := objectPath_cases base
  . refine ⟨"", ?_⟩
    intro name
    rw [hpath, shownPath_bytes, String.empty_append]
  . refine ⟨shownPath front ++ "/", ?_⟩
    intro name
    rw [hpath, shownPath_append_slash]

end Filesystem
end Storage
end ChatTelemetry
