import ChatTelemetry.Proofs.Filesystem

/-!
This module shows that objects side by side in one directory do not disturb one another: whether one
of them can be stored does not depend on the others being stored before it.
-/

namespace ChatTelemetry

namespace Storage

open Json (Value)

/-- Names that lead to one directory. -/
def AreSiblings (n m : String) : Prop :=
  (objectSegments n).dropLast = (objectSegments m).dropLast

theorem areSiblings_append (stem : String) {n m : String} (hn : '/' ∉ n.toList)
    (hm : '/' ∉ m.toList)
    : AreSiblings (stem ++ n) (stem ++ m) := by
  obtain ⟨front, last, _, hending⟩ := @Text.segments_append _ _ '/' stem.toList
  unfold AreSiblings objectSegments
  rw [String.toList_append, String.toList_append]
  rw [hending _ hn, hending _ hm]
  rw [List.dropLast_concat, List.dropLast_concat]

theorem AreSiblings.objectNames_eq {n m : String} (h : AreSiblings n m)
    : (objectNames n).dropLast = (objectNames m).dropLast := by
  unfold objectNames
  rw [← List.map_dropLast, ← List.map_dropLast, h]

namespace Files

variable {fs : Files} {isAbsolute : Bool} {names : List Name}

/-- Nothing is left to make as long as the directories stand. -/
theorem makeDirectories_of_keepsDirectories {f f' : Files}
    (h : fs.makeDirectories isAbsolute names = (f, .ok ())) (hkeeps : KeepsDirectories f f')
    : f'.makeDirectories isAbsolute names = (f', .ok ()) := by
  by_cases hnames : names = []
  . subst hnames
    rfl
  . obtain ⟨hfault, hdirectory⟩ := makeDirectories_eq_ok h hnames
    obtain ⟨k, hk, hlast⟩ := isDirectory_iff.mp hdirectory
    apply makeDirectories_of_isDirectory hfault
    exact isDirectory_iff.mpr ⟨k, hkeeps.locate_eq_ok hk, hkeeps.directory k hlast⟩

theorem write_put_file_iff {l : Location} (hl : fs.find? l ≠ some .directory) (other : String)
    (path : List UInt8) (content : String)
    : (∃ f, (fs.put l (.file other)).write path content = .ok f)
        ↔
      ∃ f, fs.write path content = .ok f := by
  have hkeeps := keepsDirectories_put hl (.file other)
  have hkeeps' := keepsDirectories_of_put_file fs l other
  constructor
  . rintro ⟨f, hwrite⟩
    obtain ⟨hfault, k, hk, hdirectory, _⟩ := write_eq_ok_iff.mp hwrite
    refine ⟨_, write_eq_ok_iff.mpr ⟨hfault, k, hkeeps'.locate_eq_ok hk, ?_, rfl⟩⟩
    exact fun h => hdirectory (hkeeps.directory k h)
  . rintro ⟨f, hwrite⟩
    obtain ⟨hfault, k, hk, hdirectory, _⟩ := write_eq_ok_iff.mp hwrite
    refine ⟨_, write_eq_ok_iff.mpr ⟨hfault, k, hkeeps.locate_eq_ok hk, ?_, rfl⟩⟩
    exact fun h => hdirectory (hkeeps'.directory k h)

theorem files_store (fs : Files) (path : List UInt8) (content : String)
    : let above := (Path.ofBytes path).parent
      let made := fs.makeDirectories above.isAbsolute above.names
      (fs.store path content).1 = made.1 ∨
      (made.2 = .ok () ∧ ∃ l, made.1.find? l ≠ some .directory ∧
        (fs.store path content).1 = made.1.put l (.file content)) := by
  intro above made
  rcases store_cases fs path content with ⟨f, _, hmake, h⟩ | ⟨f, _, hmake, _, h⟩ |
    ⟨f, f', hmake, hwrite, h⟩
  . left
    rw [h, ← congrArg Prod.fst hmake]
  . left
    rw [h, ← congrArg Prod.fst hmake]
  . right
    have hmade : made = (f, .ok ()) := hmake
    obtain ⟨_, l, _, hdirectory, rfl⟩ := write_eq_ok_iff.mp hwrite
    rw [hmade, h]
    exact ⟨rfl, l, hdirectory, rfl⟩

end Files

namespace Filesystem

variable {base : List UInt8} {n m : String} {fs : Files}

theorem files_upload (hname : isObjectName n = true) {v : Value}
    : (upload base n v fs).files = (fs.store (objectPath base n) v.text).1 := by
  rcases upload_cases base n v fs with ⟨hname', _⟩ | ⟨_, _, h, _⟩ | ⟨_, h, _⟩
  . simp [hname] at hname'
  . rw [h]
  . rw [h]

/-- An upload succeeds, with the same locator, whether or not another one beside it comes first. -/
theorem upload_beside (hsiblings : AreSiblings n m) (v u : Value) {locator : String}
    : (upload base n v (upload base m u fs).files).result = .ok locator
        ↔
      (upload base n v fs).result = .ok locator := by
  by_cases hm : isObjectName m = true
  . rw [upload_eq_ok_iff, upload_eq_ok_iff]
    refine and_congr_right fun hn => and_congr_right fun _ => ?_
    have habove : (Path.ofBytes (objectPath base m)).parent
        = (Path.ofBytes (objectPath base n)).parent := by
      rw [parent_objectPath base hm, parent_objectPath base hn, hsiblings.objectNames_eq]
    have hstored := Files.files_store fs (objectPath base m) u.text
    dsimp only at hstored
    rw [← files_upload hm, habove] at hstored
    generalize (Path.ofBytes (objectPath base n)).parent = above at hstored ⊢
    -- Both names have the same directories above them: either these alone have been made, or the
    -- other file stands in the last of them.
    rcases hstored with h | ⟨hok, l, hl, h⟩
    . obtain ⟨r, hagain, hr⟩ := Files.makeDirectories_again fs above.isAbsolute above.names
      rw [h, hagain]
      cases hmade : fs.makeDirectories above.isAbsolute above.names with
      | mk f r' =>
        rw [hmade] at hr
        simp [hr]
    . cases hmade : fs.makeDirectories above.isAbsolute above.names with
      | mk f r =>
        rw [hmade] at hok hl h
        dsimp only at hok hl h
        subst hok
        rw [h, Files.makeDirectories_of_keepsDirectories hmade (Files.keepsDirectories_put hl _)]
        simpa using Files.write_put_file_iff hl _ _ _
  . simp [upload, hm]

end Filesystem
end Storage
end ChatTelemetry
