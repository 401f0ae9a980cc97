import ChatTelemetry.Proofs.ObjectName
import ChatTelemetry.Proofs.Outcome

/-!
This module contains the theory of the file system: what stays of it when directories are made and
files are written, and when a path leads somewhere.
-/

namespace ChatTelemetry

namespace Storage

namespace Files

/-! ### Entries -/

@[simp]
theorem find?_nil (fs : Files) : fs.find? [] = some .directory := by
  simp [find?]

theorem lookup_filter_ne {l k : Location} (h : k ≠ l) (entries : List (Location × Entry))
    : (entries.filter (·.1 ≠ l)).lookup k = entries.lookup k := by
  induction entries with
  | nil => rfl
  | cons entry entries ih =>
    obtain ⟨j, e⟩ := entry
    by_cases hj : j = l
    . subst hj
      have hk : (k == j) = false := by simpa using h
      rw [List.filter_cons_of_neg (by simp)]
      rw [List.lookup_cons, hk]
      exact ih
    . rw [List.filter_cons_of_pos (by simpa using hj)]
      rw [List.lookup_cons, List.lookup_cons]
      rw [ih]

theorem find?_put_self {l : Location} (h : l ≠ []) (fs : Files) (e : Entry)
    : (fs.put l e).find? l = some e := by
  simp [find?, put, h]

theorem find?_put_of_ne {l k : Location} (h : k ≠ l) (fs : Files) (e : Entry)
    : (fs.put l e).find? k = fs.find? k := by
  unfold find? put
  split
  . rfl
  . have hk : (k == l) = false := by simpa using h
    rw [List.lookup_cons, hk]
    exact lookup_filter_ne h fs.entries

/-! ### Walks -/

def walk (fs : Files) (l : Location) (names : List Name) : Except PathFault Location :=
  names.foldlM fs.step l

theorem locate_eq_walk (fs : Files) (p : Path)
    : fs.locate p = fs.walk (if p.isAbsolute then [] else fs.workingDirectory) p.names := by
  rfl

theorem walk_nil (fs : Files) (l : Location) : fs.walk l [] = .ok l := by
  rfl

theorem walk_cons (fs : Files) (l : Location) (name : Name) (names : List Name)
    : fs.walk l (name :: names) = (fs.step l name).bind fun k => fs.walk k names := by
  rfl

theorem walk_append (fs : Files) (l : Location) (front rest : List Name)
    : fs.walk l (front ++ rest) = (fs.walk l front).bind fun k => fs.walk k rest := by
  unfold walk
  rw [List.foldlM_append]
  rfl

theorem locate_append (fs : Files) (p : Path) (rest : List Name)
    : fs.locate { p with names := p.names ++ rest }
        =
      (fs.locate p).bind fun l => fs.walk l rest := by
  rw [locate_eq_walk, locate_eq_walk]
  exact walk_append ..

def next (l : Location) (name : Name) : Location :=
  if name = Path.dot then l else if name = Path.dots then l.dropLast else l ++ [name]

theorem next_of_isPlainName {name : Name} (h : IsPlainName name) (l : Location)
    : next l name = l ++ [name] := by
  simp [next, h.2.1, h.2.2]

theorem step_eq_ok_iff {fs : Files} {l k : Location} {name : Name}
    : fs.step l name = .ok k
        ↔
      fs.find? l = some .directory ∧ name.length ≤ nameLimit ∧ k = next l name := by
  unfold step next
  split
  . next h => simp [h]
  . next h => simp [h]
  . next h =>
    split
    . next hlong => simp [Nat.not_le.mpr hlong]
    . next hlong =>
      have hfits : name.length ≤ nameLimit := by omega
      split
      . simp [h, hfits, eq_comm]
      . split
        . simp [h, hfits, eq_comm]
        . simp [h, hfits, eq_comm]

theorem walk_eq_ok_iff {fs : Files} {l k : Location} {names : List Name}
    (hplain : ∀ name ∈ names, IsPlainName name)
    : fs.walk l names = .ok k
        ↔
      k = l ++ names ∧
        (∀ front rest, names = front ++ rest → rest ≠ [] →
          fs.find? (l ++ front) = some .directory) ∧
        ∀ name ∈ names, name.length ≤ nameLimit := by
  -- Each name begins where the one before it has led, so the start varies.
  induction names generalizing l with
  | nil => simp [walk_nil, eq_comm]
  | cons name names ih =>
    have hname : IsPlainName name := hplain name (by simp)
    have hnames : ∀ n ∈ names, IsPlainName n := fun n hn => hplain n (by simp [hn])
    rw [walk_cons, Except.bind_eq_ok_iff]
    constructor
    . rintro ⟨j, hj, hk⟩
      obtain ⟨hdirectory, hfits, rfl⟩ := step_eq_ok_iff.mp hj
      rw [next_of_isPlainName hname] at hk
      obtain ⟨rfl, hdirectories, hallfit⟩ := (ih hnames).mp hk
      refine ⟨by simp, ?_, ?_⟩
      . intro front rest heq hrest
        cases front with
        | nil => simpa using hdirectory
        | cons n front =>
          rw [List.cons_append, List.cons.injEq] at heq
          obtain ⟨rfl, heq⟩ := heq
          simpa using hdirectories front rest heq hrest
      . intro n hn
        rcases List.mem_cons.mp hn with rfl | hn
        . exact hfits
        . exact hallfit n hn
    . rintro ⟨rfl, hdirectories, hallfit⟩
      refine ⟨l ++ [name], ?_, ?_⟩
      . rw [step_eq_ok_iff, next_of_isPlainName hname]
        refine ⟨?_, hallfit name (by simp), rfl⟩
        simpa using hdirectories [] (name :: names) rfl (by simp)
      . rw [ih hnames]
        refine ⟨by simp, ?_, fun n hn => hallfit n (by simp [hn])⟩
        intro front rest heq hrest
        simpa using hdirectories (name :: front) rest (by simp [heq]) hrest

/-! ### What stays -/

/-- Where there was a directory there is one still. -/
structure KeepsDirectories (fs fs' : Files) : Prop where
  workingDirectory : fs'.workingDirectory = fs.workingDirectory
  directory : ∀ l, fs.find? l = some .directory → fs'.find? l = some .directory

/-- Everything that stood stands still, and what is new are directories. -/
structure Grows (fs fs' : Files) : Prop where
  workingDirectory : fs'.workingDirectory = fs.workingDirectory
  entry : ∀ l, fs'.find? l = fs.find? l ∨ fs.find? l = none ∧ fs'.find? l = some .directory

theorem KeepsDirectories.refl (fs : Files) : KeepsDirectories fs fs :=
  ⟨rfl, fun _ h => h⟩

theorem KeepsDirectories.trans {fs fs' fs'' : Files} (h : KeepsDirectories fs fs')
    (h' : KeepsDirectories fs' fs'')
    : KeepsDirectories fs fs'' :=
  ⟨h'.workingDirectory.trans h.workingDirectory, fun l hl => h'.directory l (h.directory l hl)⟩

theorem Grows.refl (fs : Files) : Grows fs fs :=
  ⟨rfl, fun _ => .inl rfl⟩

theorem Grows.trans {fs fs' fs'' : Files} (h : Grows fs fs') (h' : Grows fs' fs'')
    : Grows fs fs'' := by
  refine ⟨h'.workingDirectory.trans h.workingDirectory, ?_⟩
  intro l
  rcases h.entry l with heq | ⟨hnone, hnew⟩
  . rcases h'.entry l with heq' | ⟨hnone', hnew'⟩
    . exact .inl (heq'.trans heq)
    . exact .inr ⟨heq ▸ hnone', hnew'⟩
  . rcases h'.entry l with heq' | ⟨hnone', _⟩
    . exact .inr ⟨hnone, heq'.trans hnew⟩
    . simp [hnew] at hnone'

theorem Grows.find?_eq_some {fs fs' : Files} (h : Grows fs fs') {l : Location} {e : Entry}
    (hl : fs.find? l = some e)
    : fs'.find? l = some e := by
  rcases h.entry l with heq | ⟨hnone, _⟩
  . rw [heq, hl]
  . simp [hl] at hnone

theorem Grows.keepsDirectories {fs fs' : Files} (h : Grows fs fs') : KeepsDirectories fs fs' :=
  ⟨h.workingDirectory, fun _ hl => h.find?_eq_some hl⟩

theorem grows_put_directory {fs : Files} {l : Location} (h : fs.find? l = none)
    : Grows fs (fs.put l .directory) := by
  refine ⟨rfl, ?_⟩
  intro k
  by_cases hk : k = l
  . subst hk
    have hroot : k ≠ [] := by
      rintro rfl
      simp at h
    exact .inr ⟨h, find?_put_self hroot fs _⟩
  . exact .inl (find?_put_of_ne hk fs _)

theorem keepsDirectories_put {fs : Files} {l : Location} (h : fs.find? l ≠ some .directory)
    (e : Entry)
    : KeepsDirectories fs (fs.put l e) := by
  refine ⟨rfl, ?_⟩
  intro k hk
  have hne : k ≠ l := by
    rintro rfl
    exact h hk
  rw [find?_put_of_ne hne]
  exact hk

theorem keepsDirectories_of_put_file (fs : Files) (l : Location) (content : String)
    : KeepsDirectories (fs.put l (.file content)) fs := by
  refine ⟨rfl, ?_⟩
  intro k hk
  by_cases hroot : k = []
  . rw [hroot, find?_nil]
  . have hne : k ≠ l := by
      rintro rfl
      simp [find?_put_self hroot] at hk
    rwa [find?_put_of_ne hne] at hk

namespace KeepsDirectories

variable {fs fs' : Files} (h : KeepsDirectories fs fs')

include h

theorem step_eq_ok {l k : Location} {name : Name} (hk : fs.step l name = .ok k)
    : fs'.step l name = .ok k := by
  rw [step_eq_ok_iff] at hk ⊢
  exact ⟨h.directory l hk.1, hk.2⟩

theorem walk_eq_ok {l k : Location} {names : List Name} (hk : fs.walk l names = .ok k)
    : fs'.walk l names = .ok k := by
  induction names generalizing l with
  | nil => exact hk
  | cons name names ih =>
    rw [walk_cons, Except.bind_eq_ok_iff] at hk ⊢
    obtain ⟨j, hj, hk⟩ := hk
    exact ⟨j, h.step_eq_ok hj, ih hk⟩

theorem locate_eq_ok {p : Path} {l : Location} (hl : fs.locate p = .ok l)
    : fs'.locate p = .ok l := by
  rw [locate_eq_walk] at hl ⊢
  rw [h.workingDirectory]
  exact h.walk_eq_ok hl

end KeepsDirectories

end Files
end Storage
end ChatTelemetry
