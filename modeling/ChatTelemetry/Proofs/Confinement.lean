import ChatTelemetry.Proofs.Filesystem

/-!
This module shows that storing an object changes nothing outside of the object's path: one file is
written, directories that are missing on the way to it are made, and all else stays as it is.
-/

namespace ChatTelemetry

namespace Storage

open Json (Value)

namespace Files

variable {fs fs' : Files} {p : Path} {l k : Location}

/-! ### What stands on the way -/

/-- The locations that a path goes through before its last name. -/
def IsOnWay (fs : Files) (p : Path) (l : Location) : Prop :=
  ∃ front rest, p.names = front ++ rest ∧ rest ≠ [] ∧ fs.locate ⟨p.isAbsolute, front⟩ = .ok l

/-- What stands at a location stood there before, or is a new directory on the way of a path. -/
def KeepsAt (fs fs' : Files) (p : Path) (l : Location) : Prop :=
  fs'.find? l = fs.find? l ∨
    fs.find? l = none ∧ fs'.find? l = some .directory ∧ fs'.IsOnWay p l

theorem walk_prefix {names : List Name} (hup : Path.dots ∉ names)
    (h : fs.walk l names = .ok k)
    : l <+: k := by
  induction names generalizing l with
  | nil =>
    cases h
    exact List.prefix_refl _
  | cons name names ih =>
    rw [List.mem_cons, not_or] at hup
    rw [walk_cons, Except.bind_eq_ok_iff] at h
    obtain ⟨j, hj, hk⟩ := h
    obtain ⟨_, _, rfl⟩ := step_eq_ok_iff.mp hj
    refine List.IsPrefix.trans ?_ (ih hup.2 hk)
    unfold next
    split
    . exact List.prefix_refl _
    . simp [Ne.symm hup.1]

/-- A path that never goes up has all that is on its way above its end. -/
theorem IsOnWay.prefix (h : fs.IsOnWay p k) (hl : fs.locate p = .ok l)
    (hup : Path.dots ∉ p.names)
    : k <+: l := by
  obtain ⟨front, rest, hnames, _, hk⟩ := h
  have hp : p = { Path.mk p.isAbsolute front with names := front ++ rest } := by rw [← hnames]
  rw [hp, locate_append fs ⟨p.isAbsolute, front⟩ rest, hk] at hl
  apply walk_prefix _ hl
  intro hrest
  exact hup (by simp [hnames, hrest])

theorem IsOnWay.keepsDirectories (h : fs.IsOnWay p l) (hkeeps : KeepsDirectories fs fs')
    : fs'.IsOnWay p l := by
  obtain ⟨front, rest, hnames, hrest, hl⟩ := h
  exact ⟨front, rest, hnames, hrest, hkeeps.locate_eq_ok hl⟩

theorem KeepsAt.find?_eq_file_iff (h : KeepsAt fs fs' p l) {content : String}
    : fs'.find? l = some (.file content) ↔ fs.find? l = some (.file content) := by
  rcases h with heq | ⟨hnone, hnew, _⟩
  . rw [heq]
  . simp [hnone, hnew]

/-! ### What storing changes -/

theorem makeDirectories_keepsAt (fs : Files) (p : Path) (l : Location)
    : KeepsAt fs (fs.makeDirectories p.parent.isAbsolute p.parent.names).1 p l := by
  rcases (makeDirectories_grows fs p.parent.isAbsolute p.parent.names).entry l with
    heq | ⟨hnone, hnew⟩
  . exact .inl heq
  . rcases makeDirectories_created fs p.parent.isAbsolute p.parent.names l with
      heq | ⟨front, rest, hnames, hl⟩
    . exact .inl heq
    . by_cases hempty : p.names = []
      . -- A path without names has nothing above it.
        left
        simp [Path.parent, hempty, makeDirectories, makeDirectories.go]
      . right
        refine ⟨hnone, hnew, front, rest ++ [p.names.getLast hempty], ?_, by simp, hl⟩
        rw [← List.append_assoc, ← hnames]
        exact (List.dropLast_concat_getLast hempty).symm

/-- Storing a file that fails leaves every file as it was; storing one that succeeds changes that
one alone. -/
theorem store_keepsAt (fs : Files) (path : List UInt8) (content : String)
    : let stored := fs.store path content
      (∃ fault, stored.2 = .error fault ∧ ∀ k, KeepsAt fs stored.1 (.ofBytes path) k) ∨
      (∃ l, stored.2 = .ok () ∧ stored.1.locate (.ofBytes path) = .ok l ∧
        fs.find? l ≠ some .directory ∧ stored.1.find? l = some (.file content) ∧
        ∀ k, k ≠ l → KeepsAt fs stored.1 (.ofBytes path) k) := by
  intro stored
  have hmade := makeDirectories_keepsAt fs (.ofBytes path)
  rcases store_cases fs path content with ⟨f, fault, hmake, h⟩ | ⟨f, fault, hmake, _, h⟩ |
    ⟨f, f', hmake, hwrite, h⟩
  . left
    rw [hmake] at hmade
    have hstored : stored = (f, .error fault) := h
    rw [hstored]
    exact ⟨fault, rfl, hmade⟩
  . left
    rw [hmake] at hmade
    have hstored : stored = (f, .error fault) := h
    rw [hstored]
    exact ⟨fault, rfl, hmade⟩
  . right
    have hgrows := makeDirectories_grows fs (Path.ofBytes path).parent.isAbsolute
      (Path.ofBytes path).parent.names
    rw [hmake] at hmade hgrows
    obtain ⟨_, l, hl, hdirectory, rfl⟩ := write_eq_ok_iff.mp hwrite
    have hkeeps := keepsDirectories_put hdirectory (.file content)
    have hroot : l ≠ [] := by
      rintro rfl
      simp at hdirectory
    have hstored : stored = (f.put l (.file content), .ok ()) := h
    rw [hstored]
    refine ⟨l, rfl, hkeeps.locate_eq_ok hl, ?_, find?_put_self hroot f _, ?_⟩
    . exact fun hold => hdirectory (hgrows.find?_eq_some hold)
    . intro k hk
      unfold KeepsAt
      rw [find?_put_of_ne hk]
      rcases hmade k with heq | ⟨hnone, hnew, hway⟩
      . exact .inl heq
      . exact .inr ⟨hnone, hnew, hway.keepsDirectories hkeeps⟩

end Files

namespace Filesystem

variable {base : List UInt8} {name : String} {fs : Files}

theorem segment_of_isObjectName (h : isObjectName name = true)
    : ∀ s ∈ objectSegments name, IsPlain s ∧ '\\' ∉ s := by
  intro s hs
  obtain ⟨hbackslash, hplain⟩ := isObjectName_iff.mp h
  refine ⟨hplain s hs, ?_⟩
  intro hmem
  apply hbackslash
  have hsublist := Text.join_sublist ['/'] (List.singleton_sublist.mpr hs)
  rw [objectSegments, Text.join_segments] at hsublist
  exact hsublist.subset hmem

/--
Uploads are confined to the path of their object, whatever the name, the base and the files are
like. A name is refused before anything is touched. An upload that fails leaves every file as it
was. One that succeeds has written the path that goes on from the base through the segments of the
name, none of which stays or goes up; of the files, only the one there has changed. Apart from that,
directories are new that the path goes through; where the base goes nowhere up, they stand above the
file.
-/
theorem uploads_are_confined (base : List UInt8) (name : String) (v : Value) (fs : Files)
    : let o := upload base name v fs
      let path := Path.ofBytes (objectPath base name)
      (isObjectName name = false → o.result = .error (.invalidName name) ∧ o.files = fs) ∧
      (∀ e, o.result = .error e →
        (∀ k content,
          o.files.find? k = some (.file content) ↔ fs.find? k = some (.file content)) ∧
        ∀ k, Files.KeepsAt fs o.files path k) ∧
      (∀ locator, o.result = .ok locator →
        locator = shownPath (objectPath base name) ∧
        (∀ s ∈ objectSegments name, IsPlain s ∧ '\\' ∉ s) ∧
        path = { Path.ofBytes base with
          names := (Path.ofBytes base).names ++ objectNames name } ∧
        ∃ l, o.files.locate path = .ok l ∧ fs.find? l ≠ some .directory ∧
          o.files.find? l = some (.file v.text) ∧
          (∀ k, k ≠ l → Files.KeepsAt fs o.files path k) ∧
          (Path.dots ∉ (Path.ofBytes base).names →
            ∀ k, o.files.IsOnWay path k → k <+: l)) := by
  intro o path
  have hchanges := Files.store_keepsAt fs (objectPath base name) v.text
  rcases upload_cases base name v fs with ⟨hname, hfiles, hresult⟩ |
    ⟨hname, fault, hstore, hresult⟩ | ⟨hname, hstore, hresult⟩
  . have ho : o.files = fs := hfiles
    have hresult' : o.result = .error (.invalidName name) := hresult
    rw [ho, hresult']
    refine ⟨fun _ => ⟨rfl, rfl⟩, ?_, ?_⟩
    . exact fun _ _ => ⟨fun _ _ => Iff.rfl, fun _ => .inl rfl⟩
    . simp
  . have hresult' : o.result = .error (.io fault) := hresult
    rw [hstore] at hchanges
    rw [hresult']
    refine ⟨by simp [hname], ?_, by simp⟩
    rcases hchanges with ⟨_, _, hkeeps⟩ | ⟨_, hok, _⟩
    . exact fun _ _ => ⟨fun k content => (hkeeps k).find?_eq_file_iff, hkeeps⟩
    . simp at hok
  . have hresult' : o.result = .ok (shownPath (objectPath base name)) := hresult
    rw [hstore] at hchanges
    rw [hresult']
    refine ⟨by simp [hname], by simp, ?_⟩
    rintro _ ⟨⟩
    rcases hchanges with ⟨_, herror, _⟩ | ⟨l, _, hl, hold, hfile, hkeeps⟩
    . simp at herror
    . have hpath : path = { Path.ofBytes base with
          names := (Path.ofBytes base).names ++ objectNames name } :=
        ofBytes_objectPath base hname
      refine ⟨rfl, segment_of_isObjectName hname, hpath, l, hl, hold, hfile, hkeeps, ?_⟩
      intro hup k hk
      apply hk.prefix hl
      rw [hpath, List.mem_append, not_or]
      exact ⟨hup, fun h => (isPlainName_of_isObjectName hname _ h).2.2 rfl⟩

/-- An upload that fails after a directory has been made for it, and one below that directory. -/
theorem uploads_are_confined_past_a_failure
    : let base := Text.bytes "/store"
      let fs : Files := ⟨[([Text.bytes "store"], .directory)], []⟩
      let failed := upload base "a/\x00" .null fs
      let o := upload base "a/b" .null failed.files
      failed.result = .error (.io .nulInPath) ∧
      failed.files.find? [Text.bytes "store", Text.bytes "a"] = some .directory ∧
      (∀ k content, failed.files.find? k ≠ some (.file content)) ∧
      o.result = .ok "/store/a/b" ∧
      ∃ l, o.files.find? l = some (.file "null") ∧
        ∀ k content, o.files.find? k = some (.file content) → k = l := by
  intro base fs failed o
  have hfailed : failed.result = .error (.io .nulInPath) := by decide
  have hstored : o.result = .ok "/store/a/b" := by decide
  obtain ⟨_, herror, _⟩ := uploads_are_confined base "a/\x00" .null fs
  obtain ⟨_, _, hok⟩ := uploads_are_confined base "a/b" .null failed.files
  obtain ⟨_, _, _, l, _, _, hfile, hkeeps, _⟩ := hok _ hstored
  have hnone : ∀ k content, failed.files.find? k ≠ some (.file content) := by
    intro k content h
    have hold : fs.find? k = some (.file content) := ((herror _ hfailed).1 k content).mp h
    revert hold
    simp only [Files.find?, fs, List.lookup_cons, List.lookup_nil]
    split
    . simp
    . split
      . simp
      . simp
  refine ⟨hfailed, by decide, hnone, hstored, l, hfile, ?_⟩
  intro k content h
  by_contra hk
  exact hnone k content ((hkeeps k hk).find?_eq_file_iff.mp h)

end Filesystem
end Storage
end ChatTelemetry
