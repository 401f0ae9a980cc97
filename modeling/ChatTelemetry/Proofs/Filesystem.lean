import ChatTelemetry.Proofs.Directories

/-!
This module contains the theory of files that are written and read again, and of objects kept as
such files below a base.
-/

namespace ChatTelemetry

namespace Storage

open Json (Value)

namespace Files

variable {fs fs' : Files} {path : List UInt8} {content : String}

def read (fs : Files) (path : List UInt8) : Except PathFault String :=
  match pathFault? path with
  | some fault => .error fault
  | none =>
    match fs.locate (.ofBytes path) with
    | .error fault => .error fault
    | .ok l =>
      match fs.find? l with
      | none => .error .notFound
      | some .directory => .error .isADirectory
      | some (.file content) => .ok content

theorem read_eq_ok_iff
    : fs.read path = .ok content
        ↔
      pathFault? path = none ∧
        ∃ l, fs.locate (.ofBytes path) = .ok l ∧ fs.find? l = some (.file content) := by
  unfold read
  cases pathFault? path with
  | some fault => simp
  | none =>
    cases fs.locate (.ofBytes path) with
    | error fault => simp
    | ok l =>
      simp only [Except.ok.injEq, true_and]
      split
      . next h => simp [h]
      . next h => simp [h]
      . next h => simp [h]

theorem write_eq_ok_iff
    : fs.write path content = .ok fs'
        ↔
      pathFault? path = none ∧
        ∃ l, fs.locate (.ofBytes path) = .ok l ∧ fs.find? l ≠ some .directory ∧
          fs' = fs.put l (.file content) := by
  unfold write
  cases pathFault? path with
  | some fault => simp
  | none =>
    cases fs.locate (.ofBytes path) with
    | error fault => simp [bind, Except.bind]
    | ok l =>
      simp only [bind, Except.bind, Except.ok.injEq, true_and]
      split
      . next h => simp [h]
      . next h =>
        constructor
        . intro hput
          cases hput
          exact ⟨l, rfl, h, rfl⟩
        . rintro ⟨k, rfl, _, rfl⟩
          rfl

theorem store_cases (fs : Files) (path : List UInt8) (content : String)
    : let above := (Path.ofBytes path).parent
      (∃ f fault, fs.makeDirectories above.isAbsolute above.names = (f, .error fault) ∧
        fs.store path content = (f, .error fault)) ∨
      (∃ f fault, fs.makeDirectories above.isAbsolute above.names = (f, .ok ()) ∧
        f.write path content = .error fault ∧
        fs.store path content = (f, .error fault)) ∨
      (∃ f f', fs.makeDirectories above.isAbsolute above.names = (f, .ok ()) ∧
        f.write path content = .ok f' ∧
        fs.store path content = (f', .ok ())) := by
  intro above
  unfold store
  cases hmake : fs.makeDirectories above.isAbsolute above.names with
  | mk f r =>
    cases r with
    | error fault => exact .inl ⟨f, fault, rfl, by simp [above, hmake]⟩
    | ok _ =>
      right
      cases hwrite : f.write path content with
      | error fault => exact .inl ⟨f, fault, rfl, hwrite, by simp [above, hmake, hwrite]⟩
      | ok f' => exact .inr ⟨f, f', rfl, hwrite, by simp [above, hmake, hwrite]⟩

theorem store_eq_error {fault : PathFault} (h : fs.store path content = (fs', .error fault))
    : Grows fs fs' := by
  rcases store_cases fs path content with ⟨f, _, hmake, h'⟩ | ⟨f, _, hmake, _, h'⟩ |
    ⟨f, _, hmake, _, h'⟩
  . cases h'.symm.trans h
    simpa [hmake] using makeDirectories_grows fs
      (Path.ofBytes path).parent.isAbsolute (Path.ofBytes path).parent.names
  . cases h'.symm.trans h
    simpa [hmake] using makeDirectories_grows fs
      (Path.ofBytes path).parent.isAbsolute (Path.ofBytes path).parent.names
  . simp [h] at h'

theorem store_eq_ok (h : fs.store path content = (fs', .ok ()))
    : pathFault? path = none ∧
        ∃ f l, Grows fs f ∧ f.find? l ≠ some .directory ∧ fs' = f.put l (.file content) ∧
          fs'.locate (.ofBytes path) = .ok l ∧ fs'.find? l = some (.file content) := by
  rcases store_cases fs path content with ⟨f, _, _, h'⟩ | ⟨f, _, _, _, h'⟩ |
    ⟨f, f', hmake, hwrite, h'⟩
  . simp [h] at h'
  . simp [h] at h'
  . cases h'.symm.trans h
    obtain ⟨hfault, l, hl, hne, rfl⟩ := write_eq_ok_iff.mp hwrite
    have hroot : l ≠ [] := by
      rintro rfl
      simp at hne
    refine ⟨hfault, f, l, ?_, hne, rfl, ?_, find?_put_self hroot f _⟩
    . simpa [hmake] using makeDirectories_grows fs
        (Path.ofBytes path).parent.isAbsolute (Path.ofBytes path).parent.names
    . exact (keepsDirectories_put hne _).locate_eq_ok hl

variable {p : Path} {root : Location} {names : List Name}

/-- Below a directory a file can be stored where nothing but directories is on the way to it and no
directory is in its place. -/
theorem store_below (hpath : Path.ofBytes path = { p with names := p.names ++ names })
    (hfault : pathFault? path = none) (hroot : fs.locate p = .ok root)
    (hdirectory : fs.find? root = some .directory) (hnames : names ≠ [])
    (hplain : ∀ name ∈ names, IsPlainName name)
    (hfits : ∀ name ∈ names, name.length ≤ nameLimit)
    (hfree : ∀ front rest, names = front ++ rest → rest ≠ [] →
      fs.find? (root ++ front) = some .directory ∨ fs.find? (root ++ front) = none)
    (hfile : fs.find? (root ++ names) ≠ some .directory)
    : ∃ f, Grows fs f ∧
        (∀ front rest, names = front ++ rest → rest ≠ [] →
          f.find? (root ++ front) = some .directory) ∧
        (∀ l, f.find? l = fs.find? l ∨ ∃ front rest, names = front ++ rest ∧ l = root ++ front) ∧
        f.find? (root ++ names) ≠ some .directory ∧
        fs.store path content = (f.put (root ++ names) (.file content), .ok ()) := by
  obtain ⟨init, last, rfl⟩ : ∃ init last, names = init ++ [last] :=
    ⟨_, _, (List.dropLast_concat_getLast hnames).symm⟩
  have hinit : ∀ name ∈ init, name ∈ init ++ [last] := fun name h => by simp [h]
  have hparent : (Path.ofBytes path).parent = { p with names := p.names ++ init } := by
    rw [hpath, Path.parent, ← List.append_assoc, List.dropLast_concat]
  have hfault' := pathFault?_parent hfault
  rw [hparent] at hfault'
  have hmake := makeDirectories_below_eq_ok hroot hdirectory hfault'
    (fun name h => hplain name (hinit name h)) (fun name h => hfits name (hinit name h))
    (fun front rest h => hfree front (rest ++ [last]) (by simp [h]) (by simp))
  have hgrows := makeDirectories_grows fs p.isAbsolute (p.names ++ init)
  have hnew := makeDirectories_created_below hroot hdirectory
    (fun name h => hplain name (hinit name h))
  cases hf : fs.makeDirectories p.isAbsolute (p.names ++ init) with
  | mk f r =>
    rw [hf] at hmake hgrows hnew
    subst hmake
    obtain ⟨hwalk, habove⟩ := walk_of_makeDirectories_below hroot hdirectory
      (fun name h => hplain name (hinit name h)) hf
    have hwalk : f.walk root (init ++ [last]) = .ok (root ++ (init ++ [last])) := by
      rw [walk_concat (hplain last (by simp)) (hfits last (by simp)) hwalk habove]
      rw [List.append_assoc]
    have hfile' : f.find? (root ++ (init ++ [last])) ≠ some .directory := by
      rcases hnew (root ++ (init ++ [last])) with hold | ⟨front, rest, h, hl⟩
      . rw [hold]
        exact hfile
      . -- What has been made is shorter than the whole name.
        have hlength := congrArg List.length h
        rw [← List.append_cancel_left hl] at hlength
        simp at hlength
    refine ⟨f, hgrows, ((walk_eq_ok_iff hplain).mp hwalk).2.1, ?_, hfile', ?_⟩
    . intro l
      rcases hnew l with hold | ⟨front, rest, h, hl⟩
      . exact .inl hold
      . exact .inr ⟨front, rest ++ [last], by simp [h], hl⟩
    . have hwrite : f.write path content
          = .ok (f.put (root ++ (init ++ [last])) (.file content)) := by
        refine write_eq_ok_iff.mpr ⟨hfault, _, ?_, hfile', rfl⟩
        rw [hpath, locate_append]
        rw [hgrows.keepsDirectories.locate_eq_ok hroot]
        exact hwalk
      unfold store
      rw [hparent]
      simp [hf, hwrite]

theorem read_of_store (h : fs.store path content = (fs', .ok ()))
    : fs'.read path = .ok content := by
  obtain ⟨hfault, _, l, _, _, _, hl, hfile⟩ := store_eq_ok h
  exact read_eq_ok_iff.mpr ⟨hfault, l, hl, hfile⟩

theorem Grows.read_eq_ok (h : Grows fs fs') (hread : fs.read path = .ok content)
    : fs'.read path = .ok content := by
  obtain ⟨hfault, l, hl, hfile⟩ := read_eq_ok_iff.mp hread
  refine read_eq_ok_iff.mpr ⟨hfault, l, ?_, h.find?_eq_some hfile⟩
  exact h.keepsDirectories.locate_eq_ok hl

theorem read_put_of_ne {k : Location} {e : Entry} (hk : fs.find? k ≠ some .directory)
    (hne : fs.locate (.ofBytes path) ≠ .ok k) (hread : fs.read path = .ok content)
    : (fs.put k e).read path = .ok content := by
  obtain ⟨hfault, l, hl, hfile⟩ := read_eq_ok_iff.mp hread
  refine read_eq_ok_iff.mpr ⟨hfault, l, ?_, ?_⟩
  . exact (keepsDirectories_put hk e).locate_eq_ok hl
  . rw [find?_put_of_ne]
    . exact hfile
    . rintro rfl
      exact hne hl

end Files

namespace Filesystem

open Files (Grows KeepsDirectories)

variable {base : List UInt8} {name : String} {v : Value} {fs fs' : Files}

theorem parent_objectPath (base : List UInt8) (h : isObjectName name = true)
    : (Path.ofBytes (objectPath base name)).parent
        =
      { Path.ofBytes base with
        names := (Path.ofBytes base).names ++ (objectNames name).dropLast } := by
  rw [ofBytes_objectPath base h, Path.parent]
  rw [List.dropLast_append_of_ne_nil (objectNames_ne_nil name)]

theorem upload_cases (base : List UInt8) (name : String) (v : Value) (fs : Files)
    : (isObjectName name = false ∧ (upload base name v fs).files = fs ∧
        (upload base name v fs).result = .error (.invalidName name)) ∨
      (isObjectName name = true ∧ ∃ fault,
        fs.store (objectPath base name) v.text
          = ((upload base name v fs).files, .error fault) ∧
        (upload base name v fs).result = .error (.io fault)) ∨
      (isObjectName name = true ∧
        fs.store (objectPath base name) v.text = ((upload base name v fs).files, .ok ()) ∧
        (upload base name v fs).result = .ok (shownPath (objectPath base name))) := by
  unfold upload
  cases isObjectName name with
  | false => simp
  | true =>
    right
    cases hstore : fs.store (objectPath base name) v.text with
    | mk f r =>
      cases r with
      | error fault => simp [hstore]
      | ok _ => simp [hstore]

theorem upload_of_store_eq_ok (hname : isObjectName name = true)
    (h : fs.store (objectPath base name) v.text = (fs', .ok ()))
    : (upload base name v fs).files = fs' ∧
        (upload base name v fs).result = .ok (shownPath (objectPath base name)) := by
  simp [upload, hname, h]

theorem upload_of_store_eq_error (hname : isObjectName name = true) {fault : PathFault}
    (h : fs.store (objectPath base name) v.text = (fs', .error fault))
    : (upload base name v fs).files = fs' ∧
        (upload base name v fs).result = .error (.io fault) := by
  simp [upload, hname, h]

theorem upload_eq_ok {locator : String} (h : (upload base name v fs).result = .ok locator)
    : isObjectName name = true ∧ locator = shownPath (objectPath base name) ∧
        fs.store (objectPath base name) v.text = ((upload base name v fs).files, .ok ()) := by
  rcases upload_cases base name v fs with ⟨_, _, h'⟩ | ⟨_, _, _, h'⟩ | ⟨hname, hstore, h'⟩
  . simp [h] at h'
  . simp [h] at h'
  . cases h.symm.trans h'
    exact ⟨hname, rfl, hstore⟩

theorem upload_eq_ok_iff {locator : String}
    : (upload base name v fs).result = .ok locator
        ↔
      isObjectName name = true ∧ locator = shownPath (objectPath base name) ∧
        ∃ f f', fs.makeDirectories (Path.ofBytes (objectPath base name)).parent.isAbsolute
            (Path.ofBytes (objectPath base name)).parent.names = (f, .ok ()) ∧
          f.write (objectPath base name) v.text = .ok f' := by
  constructor
  . intro h
    obtain ⟨hname, hlocator, hstore⟩ := upload_eq_ok h
    refine ⟨hname, hlocator, ?_⟩
    rcases Files.store_cases fs (objectPath base name) v.text with ⟨f, _, _, h'⟩ |
      ⟨f, _, _, _, h'⟩ | ⟨f, f', hmake, hwrite, _⟩
    . simp [hstore] at h'
    . simp [hstore] at h'
    . exact ⟨f, f', hmake, hwrite⟩
  . rintro ⟨hname, rfl, f, f', hmake, hwrite⟩
    apply (upload_of_store_eq_ok hname _).2
    . exact f'
    . simp [Files.store, hmake, hwrite]

theorem locate_objectPath_injective {n m : String} (hn : isObjectName n = true)
    (hm : isObjectName m = true) {l : Location}
    (hnl : fs.locate (.ofBytes (objectPath base n)) = .ok l)
    (hml : fs.locate (.ofBytes (objectPath base m)) = .ok l)
    : n = m := by
  rw [ofBytes_objectPath base hn, Files.locate_append, Except.bind_eq_ok_iff] at hnl
  rw [ofBytes_objectPath base hm, Files.locate_append, Except.bind_eq_ok_iff] at hml
  obtain ⟨root, hroot, hnl⟩ := hnl
  obtain ⟨root', hroot', hml⟩ := hml
  cases hroot.symm.trans hroot'
  have hnl := ((Files.walk_eq_ok_iff (isPlainName_of_isObjectName hn)).mp hnl).1
  have hml := ((Files.walk_eq_ok_iff (isPlainName_of_isObjectName hm)).mp hml).1
  apply objectNames_injective
  exact List.append_cancel_left (hnl.symm.trans hml)

def uploadAll (base : List UInt8) : List (String × Value) → Files →
    List (Except UploadError String) × Files
  | [], fs => ([], fs)
  | (name, v) :: uploads, fs =>
    let o := upload base name v fs
    let (results, fs) := uploadAll base uploads o.files
    (o.result :: results, fs)

theorem upload_keeps_read {n : String} (hn : isObjectName n = true) (hne : n ≠ name)
    {content : String} (hread : fs.read (objectPath base n) = .ok content)
    : (upload base name v fs).files.read (objectPath base n) = .ok content := by
  rcases upload_cases base name v fs with ⟨_, h, _⟩ | ⟨_, _, h, _⟩ | ⟨hname, h, _⟩
  . rw [h]
    exact hread
  . exact (Files.store_eq_error h).read_eq_ok hread
  . obtain ⟨_, f, l, hgrows, hdirectory, hfiles, hl, _⟩ := Files.store_eq_ok h
    have hread' := hgrows.read_eq_ok hread
    rw [hfiles] at hl ⊢
    apply Files.read_put_of_ne hdirectory _ hread'
    intro hl'
    have := (Files.keepsDirectories_put hdirectory (.file v.text)).locate_eq_ok hl'
    exact hne (locate_objectPath_injective hn hname this hl)

theorem length_uploadAll (base : List UInt8) (uploads : List (String × Value)) (fs : Files)
    : (uploadAll base uploads fs).1.length = uploads.length := by
  induction uploads generalizing fs with
  | nil => rfl
  | cons u uploads ih =>
    unfold uploadAll
    simp [ih]

theorem files_uploadAll_append (base : List UInt8) (first rest : List (String × Value)) (fs : Files)
    : (uploadAll base (first ++ rest) fs).2
        =
      (uploadAll base rest (uploadAll base first fs).2).2 := by
  induction first generalizing fs with
  | nil => rfl
  | cons u first ih => exact ih (upload base u.1 u.2 fs).files

theorem uploadAll_keeps_read {uploads : List (String × Value)} {n : String}
    (hn : isObjectName n = true) (hne : n ∉ uploads.map Prod.fst) {content : String}
    (hread : fs.read (objectPath base n) = .ok content)
    : (uploadAll base uploads fs).2.read (objectPath base n) = .ok content := by
  induction uploads generalizing fs with
  | nil => exact hread
  | cons u uploads ih =>
    obtain ⟨m, v⟩ := u
    rw [List.map_cons, List.mem_cons, not_or] at hne
    exact ih hne.2 (upload_keeps_read hn hne.1 hread)

/-- An object whose upload has succeeded can be read, as long as its name is not used again. -/
theorem read_of_uploadAll {uploads : List (String × Value)}
    (hnames : (uploads.map Prod.fst).Nodup) {n locator : String}
    (h : ((n, v), .ok locator) ∈ uploads.zip (uploadAll base uploads fs).1)
    : isObjectName n = true ∧ locator = shownPath (objectPath base n) ∧
        (uploadAll base uploads fs).2.read (objectPath base n) = .ok v.text := by
  induction uploads generalizing fs with
  | nil => simp at h
  | cons u uploads ih =>
    obtain ⟨m, u⟩ := u
    rw [List.map_cons, List.nodup_cons] at hnames
    unfold uploadAll at h ⊢
    dsimp only at h ⊢
    rw [List.zip_cons_cons, List.mem_cons] at h
    -- The first object has been uploaded before all others, none of which has its name.
    rcases h with heq | h
    . obtain ⟨hobject, hresult⟩ := Prod.mk.inj heq
      cases hobject
      obtain ⟨hn, rfl, hstore⟩ := upload_eq_ok hresult.symm
      refine ⟨hn, rfl, ?_⟩
      exact uploadAll_keeps_read hn hnames.1 (Files.read_of_store hstore)
    . exact ih hnames.2 h

end Filesystem
end Storage
end ChatTelemetry
