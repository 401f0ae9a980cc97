import ChatTelemetry.Proofs.Filesystem
import ChatTelemetry.Proofs.ShownPath

/-!
This module shows that objects kept as files below an empty directory are a store of values by
name, in which no name may lead through another one.
-/

namespace ChatTelemetry

namespace Storage

open Json (Value)

/-! ### Values by name -/

/-- Whether a name goes on from another one, as from a directory. -/
def LeadsThrough (name other : String) : Prop :=
  objectSegments other <+: objectSegments name ∧ objectSegments other ≠ objectSegments name

instance (name other : String) : Decidable (LeadsThrough name other) :=
  inferInstanceAs (Decidable (_ ∧ _))

theorem leadsThrough_iff {name other : String}
    : LeadsThrough name other ↔
        ∃ rest, rest ≠ [] ∧ objectNames name = objectNames other ++ rest := by
  unfold LeadsThrough objectNames
  constructor
  . rintro ⟨⟨rest, h⟩, hne⟩
    refine ⟨rest.map Text.utf8, ?_, ?_⟩
    . rw [ne_eq, List.map_eq_nil_iff]
      rintro rfl
      exact hne (by simpa using h)
    . rw [← h, List.map_append]
  . rintro ⟨rest, hrest, h⟩
    obtain ⟨front, rest', hsegments, hfront, rfl⟩ := List.map_eq_append_iff.mp h
    obtain rfl : front = objectSegments other :=
      List.map_injective_iff.mpr (fun _ _ => Text.utf8_injective) hfront
    refine ⟨⟨rest', hsegments.symm⟩, ?_⟩
    rw [hsegments]
    simpa [eq_comm] using hrest

/-- Values by name; no name leads through another one. -/
structure Shelf where
  objects : List (String × Value)
  apart : ∀ n ∈ objects.map Prod.fst, ∀ m ∈ objects.map Prod.fst, ¬LeadsThrough n m

namespace Shelf

def empty : Shelf where
  objects := []
  apart := by simp

def names (s : Shelf) : List String :=
  s.objects.map Prod.fst

def Accepts (s : Shelf) (name : String) : Prop :=
  isObjectName name = true ∧ ∀ n ∈ s.names, ¬LeadsThrough name n ∧ ¬LeadsThrough n name

instance (s : Shelf) (name : String) : Decidable (s.Accepts name) :=
  inferInstanceAs (Decidable (_ ∧ _))

def put (s : Shelf) (name : String) (v : Value) (h : s.Accepts name) : Shelf where
  objects := (name, v) :: s.objects.filter (·.1 ≠ name)
  apart := by
    have hself : ¬LeadsThrough name name := fun hname => hname.2 rfl
    have hold : ∀ n ∈ (s.objects.filter (·.1 ≠ name)).map Prod.fst, n ∈ s.names := by
      intro n hn
      exact ((List.filter_sublist).map Prod.fst).subset hn
    intro n hn m hm
    rcases List.mem_cons.mp hn with rfl | hn
    . rcases List.mem_cons.mp hm with rfl | hm
      . exact hself
      . exact (h.2 m (hold m hm)).1
    . rcases List.mem_cons.mp hm with rfl | hm
      . exact (h.2 n (hold n hn)).2
      . exact s.apart n (hold n hn) m (hold m hm)

def store (s : Shelf) (name : String) (v : Value) : Shelf :=
  if h : s.Accepts name then s.put name v h else s

def storeAll (s : Shelf) (uploads : List (String × Value)) : Shelf :=
  uploads.foldl (fun s (name, v) => s.store name v) s

theorem mem_put {s : Shelf} {name : String} {v : Value} {h : s.Accepts name} {n : String}
    {u : Value}
    : (n, u) ∈ (s.put name v h).objects
        ↔
      (n, u) = (name, v) ∨ (n, u) ∈ s.objects ∧ n ≠ name := by
  simp [put]

theorem mem_names {s : Shelf} {n : String} : n ∈ s.names ↔ ∃ v, (n, v) ∈ s.objects := by
  simp [names]

theorem mem_names_put {s : Shelf} {name : String} {v : Value} {h : s.Accepts name} {n : String}
    : n ∈ (s.put name v h).names ↔ n = name ∨ n ∈ s.names := by
  by_cases hn : n = name
  . simp [names, put, hn]
  . simp [names, put, hn]

end Shelf

namespace Filesystem

open Files (Grows KeepsDirectories keepsDirectories_put)

/--
The files below a location are those of a shelf: each of its values stands as a file, the
directories are on the way to such files, and there is nothing else.
-/
structure Represents (base : List UInt8) (root : Location) (fs : Files) (s : Shelf) : Prop where
  located : fs.locate (.ofBytes base) = .ok root
  directory : fs.find? root = some .directory
  file : ∀ n v, (n, v) ∈ s.objects →
    fs.find? (root ++ objectNames n) = some (.file v.text)
  way : ∀ n ∈ s.names, ∀ front rest, objectNames n = front ++ rest → rest ≠ [] →
    fs.find? (root ++ front) = some .directory
  only : ∀ names, names ≠ [] → fs.find? (root ++ names) ≠ none →
    ∃ n ∈ s.names, names <+: objectNames n

/-- A name whose path is no longer than paths may be, nor is any of its segments. -/
structure Fits (base : List UInt8) (name : String) : Prop where
  path : pathFault? (objectPath base name) = none
  segments : ∀ s ∈ objectNames name, s.length ≤ nameLimit

instance (base : List UInt8) (name : String) : Decidable (Fits base name) :=
  decidable_of_iff
    (pathFault? (objectPath base name) = none ∧
      ∀ s ∈ objectNames name, s.length ≤ nameLimit)
    ⟨fun h => ⟨h.1, h.2⟩, fun h => ⟨h.path, h.segments⟩⟩

variable {base : List UInt8} {name : String} {root : Location} {fs : Files} {s : Shelf}

namespace Represents

theorem free (h : Represents base root fs s) (ha : s.Accepts name)
    (front rest : List Name) (hfront : objectNames name = front ++ rest)
    (hrest : rest ≠ [])
    : fs.find? (root ++ front) = some .directory ∨ fs.find? (root ++ front) = none := by
  -- What stands there is on the way to an object of the shelf or is one; the latter would lead on.
  by_cases hnil : front = []
  . subst hnil
    simp [h.directory]
  . by_cases hnone : fs.find? (root ++ front) = none
    . exact .inr hnone
    . obtain ⟨n, hn, beyond, hbeyond⟩ := h.only front hnil hnone
      by_cases hend : beyond = []
      . exfalso
        apply (ha.2 n hn).1
        refine leadsThrough_iff.mpr ⟨rest, hrest, ?_⟩
        rw [hfront, ← hbeyond, hend, List.append_nil]
      . exact .inl (h.way n hn front beyond hbeyond.symm hend)

theorem not_directory (h : Represents base root fs s) (ha : s.Accepts name)
    : fs.find? (root ++ objectNames name) ≠ some .directory := by
  intro hdirectory
  obtain ⟨n, hn, rest, hrest⟩ :=
    h.only (objectNames name) (objectNames_ne_nil name) (by simp [hdirectory])
  by_cases hnil : rest = []
  . subst hnil
    obtain ⟨v, hv⟩ := Shelf.mem_names.mp hn
    rw [List.append_nil] at hrest
    rw [hrest, h.file n v hv] at hdirectory
    simp at hdirectory
  . exact (ha.2 n hn).2 (leadsThrough_iff.mpr ⟨rest, hnil, hrest.symm⟩)

theorem walk_front (h : Represents base root fs s) {n : String} (hn : n ∈ s.names)
    {front rest : List Name} (hfront : objectNames n = front ++ rest)
    (hplain : ∀ name ∈ front, IsPlainName name) (hfits : ∀ name ∈ front, name.length ≤ nameLimit)
    : fs.walk root front = .ok (root ++ front) := by
  refine (Files.walk_eq_ok_iff hplain).mpr ⟨rfl, ?_, hfits⟩
  intro front' rest' heq hrest
  exact h.way n hn front' (rest' ++ rest) (by simp [hfront, heq]) (by simp [hrest])

/-- A file that has been written where an accepted name leads, with the directories on the way to
it, is what the shelf comes to with that name. -/
theorem put_file (h : Represents base root fs s) (ha : s.Accepts name) (v : Value) {f : Files}
    (hgrows : Grows fs f)
    (hway : ∀ front rest, objectNames name = front ++ rest → rest ≠ [] →
      f.find? (root ++ front) = some .directory)
    (hnew : ∀ l, f.find? l = fs.find? l ∨
      ∃ front rest, objectNames name = front ++ rest ∧ l = root ++ front)
    (hfile : f.find? (root ++ objectNames name) ≠ some .directory)
    : Represents base root (f.put (root ++ objectNames name) (.file v.text))
        (s.put name v ha) := by
  have hkeeps := keepsDirectories_put hfile (.file v.text)
  constructor
  . exact hkeeps.locate_eq_ok (hgrows.keepsDirectories.locate_eq_ok h.located)
  . exact hkeeps.directory _ (hgrows.find?_eq_some h.directory)
  . intro n u hmem
    rcases Shelf.mem_put.mp hmem with heq | ⟨hmem, hne⟩
    . cases heq
      apply Files.find?_put_self
      simp [objectNames_ne_nil]
    . rw [Files.find?_put_of_ne]
      . exact hgrows.find?_eq_some (h.file n u hmem)
      . intro heq
        exact hne (objectNames_injective (List.append_cancel_left heq))
  . intro n hn front rest hfront hrest
    apply hkeeps.directory
    rcases Shelf.mem_names_put.mp hn with rfl | hn
    . exact hway front rest hfront hrest
    . exact hgrows.find?_eq_some (h.way n hn front rest hfront hrest)
  . intro names hnames hsome
    -- What is neither new nor on the way to the new file has stood before.
    by_cases heq : names = objectNames name
    . exact ⟨name, Shelf.mem_names_put.mpr (.inl rfl), heq ▸ List.prefix_refl _⟩
    . rw [Files.find?_put_of_ne (by simpa using heq)] at hsome
      rcases hnew (root ++ names) with hold | ⟨front, rest, hfront, hl⟩
      . rw [hold] at hsome
        obtain ⟨n, hn, hprefix⟩ := h.only names hnames hsome
        exact ⟨n, Shelf.mem_names_put.mpr (.inr hn), hprefix⟩
      . cases List.append_cancel_left hl
        exact ⟨name, Shelf.mem_names_put.mpr (.inl rfl), rest, hfront.symm⟩

end Represents

theorem upload_of_accepts (h : Represents base root fs s) (hfits : Fits base name)
    (ha : s.Accepts name) (v : Value)
    : (upload base name v fs).result = .ok (shownPath (objectPath base name)) ∧
        Represents base root (upload base name v fs).files (s.put name v ha) := by
  have hfile := h.not_directory ha
  obtain ⟨f, hgrows, hway, hnew, hfile', hstore⟩ :=
    Files.store_below (ofBytes_objectPath base ha.1) hfits.path h.located h.directory
      (objectNames_ne_nil name) (isPlainName_of_isObjectName ha.1) hfits.segments (h.free ha) hfile
  obtain ⟨hfiles, hresult⟩ := upload_of_store_eq_ok ha.1 hstore
  refine ⟨hresult, ?_⟩
  rw [hfiles]
  exact h.put_file ha v hgrows hway hnew hfile'

theorem store_of_leadsThrough (h : Represents base root fs s) (hfits : Fits base name)
    (hname : isObjectName name = true) {n : String} (hn : n ∈ s.names)
    (hthrough : LeadsThrough name n) (content : String)
    : ∃ fault, fs.store (objectPath base name) content = (fs, .error fault) := by
  obtain ⟨rest, hrest, hsegments⟩ := leadsThrough_iff.mp hthrough
  have hpart : ∀ s ∈ objectNames n, s ∈ objectNames name := by
    intro s hs
    simp [hsegments, hs]
  have hlocate : fs.locate { Path.ofBytes base with
      names := (Path.ofBytes base).names ++ objectNames n }
        = .ok (root ++ objectNames n) := by
    rw [Files.locate_append, h.located]
    exact h.walk_front hn (List.append_nil _).symm
      (fun s hs => isPlainName_of_isObjectName hname s (hpart s hs))
      (fun s hs => hfits.segments s (hpart s hs))
  obtain ⟨v, hv⟩ := Shelf.mem_names.mp hn
  obtain ⟨fault, hmake⟩ := Files.makeDirectories_of_file hlocate (h.file n v hv)
    (by simp [objectNames_ne_nil]) rest.dropLast
  refine ⟨fault, ?_⟩
  unfold Files.store
  rw [parent_objectPath base hname, hsegments, List.dropLast_append_of_ne_nil hrest]
  rw [List.append_assoc] at hmake
  simp [hmake]

theorem store_of_led_through (h : Represents base root fs s) (hfits : Fits base name)
    (hname : isObjectName name = true) {n : String} (hn : n ∈ s.names)
    (hthrough : LeadsThrough n name) (content : String)
    : ∃ fault, fs.store (objectPath base name) content = (fs, .error fault) := by
  obtain ⟨rest, hrest, hsegments⟩ := leadsThrough_iff.mp hthrough
  have hplain := isPlainName_of_isObjectName hname
  have hinit : ∀ s ∈ (objectNames name).dropLast, s ∈ objectNames name :=
    fun s hs => (List.dropLast_sublist _).subset hs
  have hsplit := List.dropLast_concat_getLast (objectNames_ne_nil name)
  have hinit' : objectNames n
      = (objectNames name).dropLast ++
        ([(objectNames name).getLast (objectNames_ne_nil name)] ++ rest) := by
    rw [← List.append_assoc, hsplit, hsegments]
  have habove : fs.isDirectory { Path.ofBytes base with
      names := (Path.ofBytes base).names ++ (objectNames name).dropLast } = true := by
    refine Files.isDirectory_iff.mpr ⟨root ++ (objectNames name).dropLast, ?_, ?_⟩
    . rw [Files.locate_append fs (.ofBytes base), h.located]
      exact h.walk_front hn hinit' (fun s hs => hplain s (hinit s hs))
        (fun s hs => hfits.segments s (hinit s hs))
    . exact h.way n hn _ _ hinit' (by simp)
  have hmake := Files.makeDirectories_of_isDirectory
    (parent_objectPath base hname ▸ pathFault?_parent hfits.path) habove
  cases hwrite : fs.write (objectPath base name) content with
  | ok f =>
    obtain ⟨_, l, hl, hne, _⟩ := Files.write_eq_ok_iff.mp hwrite
    rw [ofBytes_objectPath base hname, Files.locate_append, h.located] at hl
    cases (h.walk_front hn hsegments hplain hfits.segments).symm.trans hl
    exact absurd (h.way n hn _ _ hsegments hrest) hne
  | error fault =>
    refine ⟨fault, ?_⟩
    unfold Files.store
    rw [parent_objectPath base hname]
    simp [hmake, hwrite]

theorem upload_of_not_accepts (h : Represents base root fs s) (hfits : Fits base name)
    (ha : ¬s.Accepts name) (v : Value)
    : (∃ e, (upload base name v fs).result = .error e) ∧ (upload base name v fs).files = fs := by
  by_cases hname : isObjectName name = true
  . have hstore : ∃ fault, fs.store (objectPath base name) v.text = (fs, .error fault) := by
      by_cases hthrough : ∃ n ∈ s.names, LeadsThrough name n
      . obtain ⟨n, hn, hthrough⟩ := hthrough
        exact store_of_leadsThrough h hfits hname hn hthrough v.text
      . by_cases hled : ∃ n ∈ s.names, LeadsThrough n name
        . obtain ⟨n, hn, hled⟩ := hled
          exact store_of_led_through h hfits hname hn hled v.text
        . exfalso
          apply ha
          refine ⟨hname, ?_⟩
          intro n hn
          exact ⟨fun h => hthrough ⟨n, hn, h⟩, fun h => hled ⟨n, hn, h⟩⟩
    obtain ⟨fault, hstore⟩ := hstore
    obtain ⟨hfiles, hresult⟩ := upload_of_store_eq_error hname hstore
    exact ⟨⟨_, hresult⟩, hfiles⟩
  . simp [upload, hname]

/-! ### Runs -/

/-- A directory with nothing in it, at a location that the base leads to. -/
structure IsEmptyDirectory (base : List UInt8) (root : Location) (fs : Files) : Prop where
  located : fs.locate (.ofBytes base) = .ok root
  directory : fs.find? root = some .directory
  empty : ∀ names, names ≠ [] → fs.find? (root ++ names) = none

theorem IsEmptyDirectory.represents (h : IsEmptyDirectory base root fs)
    : Represents base root fs Shelf.empty := by
  refine ⟨h.located, h.directory, ?_, ?_, ?_⟩
  . simp [Shelf.empty]
  . simp [Shelf.empty, Shelf.names]
  . intro names hnames hsome
    exact absurd (h.empty names hnames) hsome

theorem Represents.upload (h : Represents base root fs s) (hfits : Fits base name) (v : Value)
    : Represents base root (upload base name v fs).files (s.store name v) := by
  unfold Shelf.store
  split
  . next ha => exact (upload_of_accepts h hfits ha v).2
  . next ha =>
    rw [(upload_of_not_accepts h hfits ha v).2]
    exact h

theorem Represents.uploadAll {uploads : List (String × Value)} (h : Represents base root fs s)
    (hfits : ∀ u ∈ uploads, Fits base u.1)
    : Represents base root (uploadAll base uploads fs).2 (s.storeAll uploads) := by
  induction uploads generalizing fs s with
  | nil => exact h
  | cons u uploads ih =>
    obtain ⟨name, v⟩ := u
    exact ih (h.upload (hfits (name, v) (by simp)) v) (fun u hu => hfits u (by simp [hu]))

theorem Represents.find?_eq_file_iff (h : Represents base root fs s) (names : List Name)
    (content : String)
    : fs.find? (root ++ names) = some (.file content)
        ↔
      ∃ n v, (n, v) ∈ s.objects ∧ objectNames n = names ∧ v.text = content := by
  constructor
  . intro hfile
    have hnames : names ≠ [] := by
      rintro rfl
      simp [h.directory] at hfile
    obtain ⟨n, hn, rest, hrest⟩ := h.only names hnames (by simp [hfile])
    by_cases hend : rest = []
    . subst hend
      obtain ⟨v, hv⟩ := Shelf.mem_names.mp hn
      rw [List.append_nil] at hrest
      have := h.file n v hv
      rw [← hrest, hfile] at this
      exact ⟨n, v, hv, hrest.symm, by simpa using this.symm⟩
    . simp [h.way n hn names rest hrest.symm hend] at hfile
  . rintro ⟨n, v, hv, rfl, rfl⟩
    exact h.file n v hv

/--
Uploads below an empty directory are a store of values by name. Whatever has been uploaded before,
the files there are those of the shelf. A further upload succeeds just if the shelf accepts its
name; one that fails changes nothing. The locator shows the path of the object, and it is this path
just if the path of the base is the bytes of a text.
-/
theorem uploads_are_a_shelf (h : IsEmptyDirectory base root fs) (uploads : List (String × Value))
    (hfits : ∀ u ∈ uploads, Fits base u.1) (v : Value) (hname : Fits base name)
    : let s := Shelf.empty.storeAll uploads
      let before := (uploadAll base uploads fs).2
      let outcome := Filesystem.upload base name v before
      (∀ names content, before.find? (root ++ names) = some (.file content) ↔
        ∃ n u, (n, u) ∈ s.objects ∧ objectNames n = names ∧ u.text = content) ∧
      (s.Accepts name → ∃ locator, outcome.result = .ok locator ∧
        locator = shownPath (objectPath base name) ∧
        (Text.bytes locator = objectPath base name ↔ IsTextual base)) ∧
      (¬s.Accepts name → (∃ e, outcome.result = .error e) ∧ outcome.files = before) := by
  intro s before outcome
  have hbefore : Represents base root before s := h.represents.uploadAll hfits
  refine ⟨hbefore.find?_eq_file_iff, ?_, ?_⟩
  . intro ha
    exact ⟨_, (upload_of_accepts hbefore hname ha v).1, rfl, bytes_locator_iff⟩
  . intro ha
    exact upload_of_not_accepts hbefore hname ha v

/-- Names that compete: a file is asked for in the place of a directory, and below a file. -/
theorem uploads_of_competing_names_are_a_shelf
    : let base := Text.bytes "/store"
      let root : Location := [Text.bytes "store"]
      let fs : Files := ⟨[(root, .directory)], []⟩
      let uploads := [("a/b", Value.null), ("a", .null), ("a/b/c", .null), ("a/b", .bool true)]
      let before := (uploadAll base uploads fs).2
      before.find? (root ++ [Text.bytes "a", Text.bytes "b"]) = some (.file "true") ∧
      (∃ locator, (upload base "a/c" .null before).result = .ok locator ∧
        Text.bytes locator = objectPath base "a/c") ∧
      (upload base "a" .null before).files = before := by
  intro base root fs uploads before
  have hempty : IsEmptyDirectory base root fs := by
    refine ⟨by decide, by decide, ?_⟩
    intro names hnames
    simp [Files.find?, fs, hnames]
  have hfits : ∀ u ∈ uploads, Fits base u.1 := by decide
  obtain ⟨hfiles, haccepted, _⟩ :=
    @uploads_are_a_shelf base "a/c" root fs hempty uploads hfits .null (by decide)
  obtain ⟨_, _, hrefused⟩ :=
    @uploads_are_a_shelf base "a" root fs hempty uploads hfits .null (by decide)
  obtain ⟨locator, hresult, _, hpath⟩ := haccepted (by decide)
  refine ⟨?_, ⟨locator, hresult, hpath.mpr ⟨"/store", rfl⟩⟩, (hrefused (by decide)).2⟩
  refine (hfiles _ _).mpr ⟨"a/b", .bool true, ?_, by decide, by decide⟩
  exact List.mem_cons_self

/-- A base whose path is no text: what the locator shows is another path, which leads nowhere. -/
theorem locator_below_no_text_is_another_path
    : let base : List UInt8 := [0x2f, 0xff]
      let root : Location := [[0xff]]
      let fs : Files := ⟨[(root, .directory)], []⟩
      let o := upload base "r.json" .null fs
      IsEmptyDirectory base root fs ∧ Fits base "r.json" ∧
      o.result = .ok "/\ufffd/r.json" ∧
      o.files.read (objectPath base "r.json") = .ok "null" ∧
      Text.bytes "/\ufffd/r.json" ≠ objectPath base "r.json" ∧
      o.files.read (Text.bytes "/\ufffd/r.json") = .error .notFound := by
  intro base root fs o
  have hempty : IsEmptyDirectory base root fs := by
    refine ⟨by decide, by decide, ?_⟩
    intro names hnames
    simp [Files.find?, fs, hnames]
  exact ⟨hempty, by decide, by decide, by decide, by decide, by decide⟩

end Filesystem
end Storage
end ChatTelemetry
