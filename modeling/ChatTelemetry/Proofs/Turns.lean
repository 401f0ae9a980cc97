import ChatTelemetry.Proofs.Storing
import Mathlib.Data.List.Perm.Basic

/-!
This module contains the theory of uploads that take turns: each of them makes its directories at
one time and writes its file at another.
-/

namespace ChatTelemetry

namespace Storage

open Json (Value)

/-- How far an upload has come. -/
inductive Progress
  | waiting
  /-- The directories stand that the file goes into. -/
  | prepared
  | finished (result : Except UploadError String)
deriving DecidableEq

def Progress.rank : Progress → Nat
  | waiting => 0
  | prepared => 1
  | finished _ => 2

/-- The locator of content whose upload has come so far. -/
def Progress.locator : Progress → String
  | finished r => locatorOf (some r)
  | _ => discardLocator

namespace Filesystem

open Files (KeepsDirectories keepsDirectories_put keepsDirectories_of_put_file)

/-! ### Uploads in two steps -/

/-- The next thing that is done for an upload: first directories are made, then the file is
written. -/
def advance (base : List UInt8) (name : String) (v : Value) (p : Progress) (fs : Files) :
    Progress × Files :=
  let path := objectPath base name
  let above := (Path.ofBytes path).parent
  match p with
  | .waiting =>
    if isObjectName name then
      match fs.makeDirectories above.isAbsolute above.names with
      | (fs, .ok ()) => (.prepared, fs)
      | (fs, .error fault) => (.finished (.error (.io fault)), fs)
    else (.finished (.error (.invalidName name)), fs)
  | .prepared =>
    match fs.write path v.text with
    | .ok fs => (.finished (.ok (shownPath (objectPath base name))), fs)
    | .error fault => (.finished (.error (.io fault)), fs)
  | .finished r => (.finished r, fs)

/-- Uploads that are being carried out: how far each object has come, and the files. -/
structure Underway where
  progress : String → Progress
  files : Files

namespace Underway

def start (fs : Files) : Underway where
  progress := fun _ => .waiting
  files := fs

def set (s : Underway) (name : String) (come : Progress × Files) : Underway where
  progress := fun n => if n = name then come.1 else s.progress n
  files := come.2

def step (base : List UInt8) (s : Underway) (u : String × Value) : Underway :=
  s.set u.1 (advance base u.1 u.2 (s.progress u.1) s.files)

/-- Carries out the steps of uploads in the order of a schedule; of the turns that an object has,
the first makes the directories and the second writes the file. -/
def follow (base : List UInt8) (s : Underway) (schedule : List (String × Value)) : Underway :=
  schedule.foldl (step base) s

variable {base : List UInt8} {s : Underway} {u : String × Value}

/-! ### Every upload comes to its end -/

theorem rank_advance (base : List UInt8) (name : String) (v : Value) (p : Progress) (fs : Files)
    : min 2 (p.rank + 1) ≤ (advance base name v p fs).1.rank := by
  cases p with
  | waiting =>
    unfold advance
    dsimp only
    split
    . split <;> simp [Progress.rank]
    . simp [Progress.rank]
  | prepared =>
    unfold advance
    dsimp only
    split <;> simp [Progress.rank]
  | finished r => simp [advance, Progress.rank]

theorem rank_follow (base : List UInt8) (schedule : List (String × Value)) (s : Underway)
    (n : String)
    : min 2 ((s.progress n).rank + (schedule.map Prod.fst).count n)
        ≤ ((s.follow base schedule).progress n).rank := by
  induction schedule generalizing s with
  | nil =>
    rw [List.map_nil, List.count_nil]
    exact Nat.min_le_right ..
  | cons u schedule ih =>
    have hnext := ih (step base s u)
    have hstep : min 2 ((s.progress n).rank + if u.1 = n then 1 else 0)
        ≤ ((step base s u).progress n).rank := by
      unfold step set
      dsimp only
      by_cases hn : n = u.1
      . subst hn
        rw [if_pos rfl, if_pos rfl]
        exact rank_advance ..
      . rw [if_neg hn, if_neg (Ne.symm hn)]
        omega
    rw [List.map_cons, List.count_cons]
    simp only [beq_iff_eq]
    unfold follow at hnext ⊢
    rw [List.foldl_cons]
    omega

theorem finished_of_rank {p : Progress} (h : 2 ≤ p.rank) : ∃ r, p = .finished r := by
  cases p with
  | waiting => simp [Progress.rank] at h
  | prepared => simp [Progress.rank] at h
  | finished r => exact ⟨r, rfl⟩

theorem finished_of_perm {schedule uploads : List (String × Value)}
    (h : schedule.Perm (uploads ++ uploads)) (fs : Files) (hu : u ∈ uploads)
    : ∃ r, ((start fs).follow base schedule).progress u.1 = .finished r := by
  apply finished_of_rank
  have hcount := (h.map Prod.fst).count_eq u.1
  have hpos : 0 < (uploads.map Prod.fst).count u.1 :=
    List.count_pos_iff.mpr (List.mem_map_of_mem hu)
  have hrank := rank_follow base schedule (start fs) u.1
  rw [List.map_append, List.count_append] at hcount
  omega

end Underway

/-! ### What a file needs -/

/-- A place where the file of an object can be written. -/
structure Takes (base : List UInt8) (fs : Files) (n : String) (l : Location) : Prop where
  name : isObjectName n = true
  path : pathFault? (objectPath base n) = none
  located : fs.locate (.ofBytes (objectPath base n)) = .ok l
  free : fs.find? l ≠ some .directory

variable {base : List UInt8} {n m : String} {fs fs' : Files} {l : Location}

theorem Takes.injective (hn : Takes base fs n l) (hm : Takes base fs m l) : n = m :=
  locate_objectPath_injective hn.name hm.name hn.located hm.located

theorem Takes.of_keepsDirectories (h : Takes base fs n l) (hkeeps : KeepsDirectories fs fs')
    (hkept : KeepsDirectories fs' fs)
    : Takes base fs' n l where
  name := h.name
  path := h.path
  located := hkeeps.locate_eq_ok h.located
  free := fun hdirectory => h.free (hkept.directory l hdirectory)

theorem write_eq_ok_iff_takes (hname : isObjectName n = true) (content : String)
    : fs.write (objectPath base n) content = .ok fs'
        ↔
      ∃ l, Takes base fs n l ∧ fs' = fs.put l (.file content) := by
  rw [Files.write_eq_ok_iff]
  constructor
  . rintro ⟨hfault, l, hl, hdirectory, hput⟩
    exact ⟨l, ⟨hname, hfault, hl, hdirectory⟩, hput⟩
  . rintro ⟨l, ⟨_, hfault, hl, hdirectory⟩, hput⟩
    exact ⟨hfault, l, hl, hdirectory, hput⟩

section Advance

variable {name : String} {v : Value} {above : Path}

theorem advance_of_not_isObjectName (hname : isObjectName name = false) (fs : Files)
    : advance base name v .waiting fs = (.finished (.error (.invalidName name)), fs) := by
  simp [advance, hname]

section Directories

variable (hname : isObjectName name = true)
  (habove : (Path.ofBytes (objectPath base name)).parent = above)

include hname habove

theorem advance_of_made
    (h : fs.makeDirectories above.isAbsolute above.names = (fs', .ok ()))
    : advance base name v .waiting fs = (.prepared, fs') := by
  simp [advance, hname, habove, h]

theorem advance_of_unmade {fault : PathFault}
    (h : fs.makeDirectories above.isAbsolute above.names = (fs', .error fault))
    : advance base name v .waiting fs = (.finished (.error (.io fault)), fs') := by
  simp [advance, hname, habove, h]

end Directories

theorem advance_prepared_cases (base : List UInt8) (hname : isObjectName name = true) (v : Value)
    (fs : Files)
    : (∃ l, Takes base fs name l ∧ advance base name v .prepared fs
        = (.finished (.ok (shownPath (objectPath base name))), fs.put l (.file v.text))) ∨
      ((¬∃ l, Takes base fs name l) ∧
        ∃ fault, advance base name v .prepared fs = (.finished (.error (.io fault)), fs)) := by
  cases hwrite : fs.write (objectPath base name) v.text with
  | ok f =>
    left
    obtain ⟨l, hl, rfl⟩ := (write_eq_ok_iff_takes hname _).mp hwrite
    exact ⟨l, hl, by simp [advance, hwrite]⟩
  | error fault =>
    right
    refine ⟨?_, fault, by simp [advance, hwrite]⟩
    rintro ⟨l, hl⟩
    have := (write_eq_ok_iff_takes hname v.text).mpr ⟨l, hl, rfl⟩
    simp [hwrite] at this

end Advance

end Filesystem
end Storage
end ChatTelemetry
