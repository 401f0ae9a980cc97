import ChatTelemetry.Proofs.Files
import Mathlib.Data.List.Induction

/-!
This module contains the theory of making a directory together with those that are missing on the
way to it.
-/

namespace ChatTelemetry

namespace Storage

namespace Files

variable {fs fs' : Files} {p : Path}

/-! ### One directory -/

theorem isDirectory_iff
    : fs.isDirectory p = true ↔ ∃ l, fs.locate p = .ok l ∧ fs.find? l = some .directory := by
  unfold isDirectory
  cases fs.locate p with
  | error fault => simp
  | ok l => simp

theorem makeDirectory_cases (fs : Files) (p : Path)
    : (∃ fault, pathFault? p.bytes = some fault ∧ fs.makeDirectory p = .error fault) ∨
      (pathFault? p.bytes = none ∧
        ∃ fault, fs.locate p = .error fault ∧ fs.makeDirectory p = .error fault) ∨
      (pathFault? p.bytes = none ∧
        ∃ l e, fs.locate p = .ok l ∧ fs.find? l = some e ∧
          fs.makeDirectory p = .error .alreadyExists) ∨
      (pathFault? p.bytes = none ∧
        ∃ l, fs.locate p = .ok l ∧ fs.find? l = none ∧
          fs.makeDirectory p = .ok (fs.put l .directory)) := by
  unfold makeDirectory
  cases hfault : pathFault? p.bytes with
  | some fault => simp
  | none =>
    cases hl : fs.locate p with
    | error fault => simp [bind, Except.bind]
    | ok l =>
      cases he : fs.find? l with
      | some e => simp [bind, Except.bind, he]
      | none => simp [bind, Except.bind, he]

theorem step_ne_alreadyExists (fs : Files) (l : Location) (name : Name)
    : fs.step l name ≠ .error .alreadyExists := by
  unfold step
  split
  . simp
  . simp
  . split
    . simp
    . split
      . simp
      . split
        . simp
        . simp

theorem locate_ne_alreadyExists (fs : Files) (p : Path)
    : fs.locate p ≠ .error .alreadyExists := by
  rw [locate_eq_walk]
  generalize (if p.isAbsolute then [] else fs.workingDirectory) = l
  induction p.names generalizing l with
  | nil => simp [walk_nil]
  | cons name names ih =>
    rw [walk_cons]
    cases hk : fs.step l name with
    | error fault =>
      have := step_ne_alreadyExists fs l name
      simpa [Except.bind, hk] using this
    | ok k => exact ih k

theorem pathFault?_eq_some {cs : List UInt8} {fault : PathFault} (h : pathFault? cs = some fault)
    : fault = .nulInPath ∨ fault = .nameTooLong := by
  unfold pathFault? at h
  split at h
  . exact .inl (Option.some.inj h).symm
  . split at h
    . exact .inr (Option.some.inj h).symm
    . simp at h

theorem makeDirectory_of_isDirectory (hfault : pathFault? p.bytes = none)
    (h : fs.isDirectory p = true)
    : fs.makeDirectory p = .error .alreadyExists := by
  obtain ⟨l, hl, hdirectory⟩ := isDirectory_iff.mp h
  unfold makeDirectory
  simp [hfault, hl, hdirectory, bind, Except.bind]

def ensure (fs : Files) (p : Path) : Files × Except PathFault Unit :=
  fs.accepted p (fs.makeDirectory p)

theorem ensure_of_isDirectory (hfault : pathFault? p.bytes = none) (h : fs.isDirectory p = true)
    : fs.ensure p = (fs, .ok ()) := by
  unfold ensure
  rw [makeDirectory_of_isDirectory hfault h]
  simp [accepted, h]

theorem ensure_cases (fs : Files) (p : Path)
    : (∃ l, pathFault? p.bytes = none ∧ fs.locate p = .ok l ∧ fs.find? l = none ∧
        fs.ensure p = (fs.put l .directory, .ok ())) ∨
      (pathFault? p.bytes = none ∧ fs.isDirectory p = true ∧ fs.ensure p = (fs, .ok ())) ∨
      (∃ fault, (pathFault? p.bytes = none → fs.isDirectory p = false) ∧
        fs.makeDirectory p = .error fault ∧ fs.ensure p = (fs, .error fault)) := by
  unfold ensure
  rcases makeDirectory_cases fs p with ⟨fault, hfault, hmake⟩ | ⟨hfault, fault, hl, hmake⟩ |
    ⟨hfault, l, e, hl, he, hmake⟩ | ⟨hfault, l, hl, hnone, hmake⟩
  . right; right
    have hne : fault ≠ .alreadyExists := by
      rintro rfl
      simpa using pathFault?_eq_some hfault
    exact ⟨fault, by simp [hfault], hmake, by simp [hmake, accepted, hne]⟩
  . right; right
    have hne : fault ≠ .alreadyExists := by
      rintro rfl
      exact locate_ne_alreadyExists fs p hl
    exact ⟨fault, by simp [isDirectory, hl], hmake, by simp [hmake, accepted, hne]⟩
  . right
    cases e with
    | directory =>
      left
      have hdirectory : fs.isDirectory p = true := isDirectory_iff.mpr ⟨l, hl, he⟩
      exact ⟨hfault, hdirectory, by simp [hmake, accepted, hdirectory]⟩
    | file content =>
      right
      have hdirectory : fs.isDirectory p = false := by
        simp [isDirectory, hl, he]
      exact ⟨_, fun _ => hdirectory, hmake, by simp [hmake, accepted, hdirectory]⟩
  . left
    exact ⟨l, hfault, hl, hnone, by simp [hmake, accepted]⟩

theorem ensure_grows (fs : Files) (p : Path) : Grows fs (fs.ensure p).1 := by
  rcases ensure_cases fs p with ⟨l, _, _, hnone, h⟩ | ⟨_, _, h⟩ | ⟨fault, _, _, h⟩
  . rw [h]
    exact grows_put_directory hnone
  . rw [h]
    exact .refl fs
  . rw [h]
    exact .refl fs

theorem ensure_eq_ok (h : fs.ensure p = (fs', .ok ()))
    : pathFault? p.bytes = none ∧ fs'.isDirectory p = true ∧ ∃ l, fs.locate p = .ok l := by
  rcases ensure_cases fs p with ⟨l, hfault, hl, hnone, h'⟩ | ⟨hfault, hdirectory, h'⟩ |
    ⟨fault, _, _, h'⟩
  . obtain ⟨rfl, _⟩ := Prod.mk.inj (h.symm.trans h')
    have hroot : l ≠ [] := by
      rintro rfl
      simp at hnone
    refine ⟨hfault, isDirectory_iff.mpr ⟨l, ?_, find?_put_self hroot fs _⟩, l, hl⟩
    exact (grows_put_directory hnone).keepsDirectories.locate_eq_ok hl
  . obtain ⟨rfl, _⟩ := Prod.mk.inj (h.symm.trans h')
    obtain ⟨l, hl, _⟩ := isDirectory_iff.mp hdirectory
    exact ⟨hfault, hdirectory, l, hl⟩
  . simp [h] at h'

theorem ensure_eq_error {fault : PathFault} (h : fs.ensure p = (fs', .error fault))
    : fs' = fs := by
  rcases ensure_cases fs p with ⟨l, _, _, _, h'⟩ | ⟨_, _, h'⟩ | ⟨_, _, _, h'⟩
  . simp [h] at h'
  . simp [h] at h'
  . exact (Prod.mk.inj (h.symm.trans h')).1

theorem ensure_created (fs : Files) (p : Path) (l : Location)
    : (fs.ensure p).1.find? l = fs.find? l ∨ (fs.ensure p).1.locate p = .ok l := by
  rcases ensure_cases fs p with ⟨k, _, hk, hnone, h⟩ | ⟨_, _, h⟩ | ⟨_, _, _, h⟩
  . rw [h]
    by_cases hl : l = k
    . subst hl
      exact .inr ((grows_put_directory hnone).keepsDirectories.locate_eq_ok hk)
    . exact .inl (find?_put_of_ne hl fs _)
  . rw [h]
    exact .inl rfl
  . rw [h]
    exact .inl rfl

/-! ### A directory and those above it -/

namespace makeDirectories

variable {isAbsolute : Bool} {name : Name} {above : List Name}

theorem go_of_notFound
    (h : fs.makeDirectory ⟨isAbsolute, (name :: above).reverse⟩ = .error .notFound)
    : go fs isAbsolute (name :: above)
        =
      match go fs isAbsolute above with
      | (fs, .ok ()) => fs.ensure ⟨isAbsolute, (name :: above).reverse⟩
      | failed => failed := by
  rw [go, h]
  rfl

theorem go_of_ne_notFound
    (h : fs.makeDirectory ⟨isAbsolute, (name :: above).reverse⟩ ≠ .error .notFound)
    : go fs isAbsolute (name :: above) = fs.ensure ⟨isAbsolute, (name :: above).reverse⟩ := by
  rw [go]
  split
  . next h' => exact absurd h' h
  . rfl

/-- Making directories ensures the last one, or fails above it, or ensures it once those above
it stand. -/
theorem go_cases (fs : Files) (isAbsolute : Bool) (name : Name) (above : List Name)
    : let p : Path := ⟨isAbsolute, (name :: above).reverse⟩
      (fs.makeDirectory p ≠ .error .notFound ∧ go fs isAbsolute (name :: above) = fs.ensure p) ∨
      (∃ fs' fault, fs.makeDirectory p = .error .notFound ∧
        go fs isAbsolute above = (fs', .error fault) ∧
        go fs isAbsolute (name :: above) = (fs', .error fault)) ∨
      (∃ fs', fs.makeDirectory p = .error .notFound ∧
        go fs isAbsolute above = (fs', .ok ()) ∧
        go fs isAbsolute (name :: above) = fs'.ensure p) := by
  intro p
  by_cases h : fs.makeDirectory p = .error .notFound
  . right
    rw [go_of_notFound h]
    obtain ⟨fs', r⟩ := go fs isAbsolute above
    cases r with
    | error fault => exact .inl ⟨fs', fault, h, rfl, rfl⟩
    | ok _ => exact .inr ⟨fs', h, rfl, rfl⟩
  . left
    exact ⟨h, go_of_ne_notFound h⟩

theorem go_grows (fs : Files) (isAbsolute : Bool) (names : List Name)
    : Grows fs (go fs isAbsolute names).1 := by
  induction names with
  | nil => exact .refl fs
  | cons name above ih =>
    rcases go_cases fs isAbsolute name above with ⟨_, h⟩ | ⟨f, fault, _, hup, h⟩ | ⟨f, _, hup, h⟩
    . rw [h]
      exact ensure_grows fs _
    . rw [hup] at ih
      rw [h]
      exact ih
    . rw [hup] at ih
      rw [h]
      exact ih.trans (ensure_grows f _)

theorem go_eq_ok {names : List Name} (h : go fs isAbsolute names = (fs', .ok ()))
    (hnames : names ≠ [])
    : pathFault? (Path.mk isAbsolute names.reverse).bytes = none ∧
        fs'.isDirectory ⟨isAbsolute, names.reverse⟩ = true := by
  cases names with
  | nil => exact absurd rfl hnames
  | cons name above =>
    rcases go_cases fs isAbsolute name above with ⟨_, h'⟩ | ⟨f, fault, _, _, h'⟩ | ⟨f, _, _, h'⟩
    . obtain ⟨hfault, hdirectory, _⟩ := ensure_eq_ok (h'.symm.trans h)
      exact ⟨hfault, hdirectory⟩
    . simp [h] at h'
    . obtain ⟨hfault, hdirectory, _⟩ := ensure_eq_ok (h'.symm.trans h)
      exact ⟨hfault, hdirectory⟩

theorem go_of_isDirectory {names : List Name}
    (hfault : pathFault? (Path.mk isAbsolute names.reverse).bytes = none)
    (h : fs.isDirectory ⟨isAbsolute, names.reverse⟩ = true)
    : go fs isAbsolute names = (fs, .ok ()) := by
  cases names with
  | nil => rfl
  | cons name above =>
    rw [go_of_ne_notFound]
    . exact ensure_of_isDirectory hfault h
    . rw [makeDirectory_of_isDirectory hfault h]
      simp

theorem isDirectory_above {l : Location}
    (h : fs.locate ⟨isAbsolute, (name :: above).reverse⟩ = .ok l)
    : fs.isDirectory ⟨isAbsolute, above.reverse⟩ = true := by
  rw [List.reverse_cons] at h
  rw [locate_append fs ⟨isAbsolute, above.reverse⟩ [name], Except.bind_eq_ok_iff] at h
  obtain ⟨k, hk, hl⟩ := h
  rw [walk_cons, Except.bind_eq_ok_iff] at hl
  obtain ⟨j, hj, _⟩ := hl
  exact isDirectory_iff.mpr ⟨k, hk, (step_eq_ok_iff.mp hj).1⟩

theorem pathFault?_above
    (h : pathFault? (Path.mk isAbsolute (name :: above).reverse).bytes = none)
    : pathFault? (Path.mk isAbsolute above.reverse).bytes = none := by
  apply pathFault?_eq_none_of_sublist _ h
  unfold Path.bytes
  apply List.Sublist.append_left
  apply Text.join_sublist
  rw [List.reverse_cons]
  exact List.sublist_append_left ..

/-- Making the same directories again changes nothing more and succeeds if it did before. The
fault may be another one, since a file in the way is met sooner once those above it stand. -/
theorem go_again (fs : Files) (isAbsolute : Bool) (names : List Name)
    : ∃ r, go (go fs isAbsolute names).1 isAbsolute names = ((go fs isAbsolute names).1, r) ∧
        (r = .ok () ↔ (go fs isAbsolute names).2 = .ok ()) := by
  -- The names are in reverse: the induction hypothesis is about the directory above.
  induction names with
  | nil => exact ⟨.ok (), rfl, Iff.rfl⟩
  | cons name above ih =>
    cases hr : go fs isAbsolute (name :: above) with
    | mk f r =>
      cases r with
      | ok _ =>
        obtain ⟨hfault, hdirectory⟩ := go_eq_ok hr (by simp)
        exact ⟨.ok (), go_of_isDirectory hfault hdirectory, Iff.rfl⟩
      | error fault =>
        rcases go_cases fs isAbsolute name above with ⟨_, h⟩ | ⟨f', fault', _, hup, h⟩ |
          ⟨f', _, hup, h⟩
        . have hf := ensure_eq_error (h.symm.trans hr)
          subst hf
          exact ⟨.error fault, hr, Iff.rfl⟩
        -- The directory above could not be made, and it still cannot.
        . cases hr.symm.trans h
          rw [hup] at ih
          obtain ⟨r, hagain, hr'⟩ := ih
          have hfailed : r ≠ .ok () := by
            intro hok
            simpa using hr'.mp hok
          rcases go_cases f isAbsolute name above with ⟨_, h'⟩ | ⟨g, fault', _, hup', h'⟩ |
            ⟨g, _, hup', h'⟩
          . cases hensure : f.ensure ⟨isAbsolute, (name :: above).reverse⟩ with
            | mk g r' =>
              rw [hensure] at h'
              cases r' with
              | ok _ =>
                -- The directory above would stand, and making it again would have succeeded.
                obtain ⟨hfault, _, l, hl⟩ := ensure_eq_ok hensure
                have := go_of_isDirectory (pathFault?_above hfault) (isDirectory_above hl)
                rw [hagain] at this
                exact absurd (Prod.mk.inj this).2 hfailed
              | error fault' =>
                rw [ensure_eq_error hensure] at h'
                exact ⟨_, h', by simp⟩
          . cases hagain.symm.trans hup'
            exact ⟨_, h', by simp⟩
          . cases hagain.symm.trans hup'
            exact absurd rfl hfailed
        -- The directory above has been made, and only the last one could not be.
        . have hensure := h.symm.trans hr
          have hf := ensure_eq_error hensure
          subst hf
          rw [hup] at ih
          obtain ⟨r, hagain, hr'⟩ := ih
          obtain rfl := hr'.mpr rfl
          rcases go_cases f isAbsolute name above with ⟨_, h'⟩ | ⟨g, fault', _, hup', h'⟩ |
            ⟨g, _, hup', h'⟩
          . exact ⟨_, h'.trans hensure, by simp⟩
          . simp [hagain] at hup'
          . cases hagain.symm.trans hup'
            exact ⟨_, h'.trans hensure, by simp⟩

theorem go_created (fs : Files) (isAbsolute : Bool) (names : List Name) (l : Location)
    : (go fs isAbsolute names).1.find? l = fs.find? l ∨
        ∃ below above, names = below ++ above ∧
          (go fs isAbsolute names).1.locate ⟨isAbsolute, above.reverse⟩ = .ok l := by
  induction names with
  | nil => exact .inl rfl
  | cons name above ih =>
    rcases go_cases fs isAbsolute name above with ⟨_, h⟩ | ⟨f, fault, _, hup, h⟩ | ⟨f, _, hup, h⟩
    . rw [h]
      rcases ensure_created fs ⟨isAbsolute, (name :: above).reverse⟩ l with heq | hl
      . exact .inl heq
      . exact .inr ⟨[], name :: above, rfl, hl⟩
    . rw [hup] at ih
      rw [h]
      rcases ih with heq | ⟨below, above', rfl, hl⟩
      . exact .inl heq
      . exact .inr ⟨name :: below, above', rfl, hl⟩
    . rw [hup] at ih
      rw [h]
      rcases ensure_created f ⟨isAbsolute, (name :: above).reverse⟩ l with heq | hl
      . rcases ih with heq' | ⟨below, above', rfl, hl⟩
        . exact .inl (heq.trans heq')
        . exact .inr ⟨name :: below, above', rfl,
            (ensure_grows f _).keepsDirectories.locate_eq_ok hl⟩
      . exact .inr ⟨[], name :: above, rfl, hl⟩

end makeDirectories

variable {isAbsolute : Bool} {name : Name} {names : List Name}

theorem makeDirectories_grows (fs : Files) (isAbsolute : Bool) (names : List Name)
    : Grows fs (fs.makeDirectories isAbsolute names).1 := by
  exact makeDirectories.go_grows ..

theorem makeDirectories_eq_ok (h : fs.makeDirectories isAbsolute names = (fs', .ok ()))
    (hnames : names ≠ [])
    : pathFault? (Path.mk isAbsolute names).bytes = none ∧
        fs'.isDirectory ⟨isAbsolute, names⟩ = true := by
  simpa using makeDirectories.go_eq_ok h (by simpa using hnames)

theorem makeDirectories_of_isDirectory
    (hfault : pathFault? (Path.mk isAbsolute names).bytes = none)
    (h : fs.isDirectory ⟨isAbsolute, names⟩ = true)
    : fs.makeDirectories isAbsolute names = (fs, .ok ()) := by
  apply makeDirectories.go_of_isDirectory
  . simpa using hfault
  . simpa using h

theorem makeDirectories_again (fs : Files) (isAbsolute : Bool) (names : List Name)
    : ∃ r, (fs.makeDirectories isAbsolute names).1.makeDirectories isAbsolute names
          = ((fs.makeDirectories isAbsolute names).1, r) ∧
        (r = .ok () ↔ (fs.makeDirectories isAbsolute names).2 = .ok ()) := by
  exact makeDirectories.go_again ..

theorem makeDirectories_created (fs : Files) (isAbsolute : Bool) (names : List Name)
    (l : Location)
    : (fs.makeDirectories isAbsolute names).1.find? l = fs.find? l ∨
        ∃ front rest, names = front ++ rest ∧
          (fs.makeDirectories isAbsolute names).1.locate ⟨isAbsolute, front⟩ = .ok l := by
  rcases makeDirectories.go_created fs isAbsolute names.reverse l with heq | ⟨rest, front, h, hl⟩
  . exact .inl heq
  . refine .inr ⟨front.reverse, rest.reverse, ?_, hl⟩
    rw [← List.reverse_append, ← h, List.reverse_reverse]

/-! ### Directories below a directory -/

theorem isDirectory_of_walk_cons {l k : Location}
    (h : fs.walk l (name :: names) = .ok k)
    : fs.find? l = some .directory := by
  rw [walk_cons, Except.bind_eq_ok_iff] at h
  obtain ⟨j, hj, _⟩ := h
  exact (step_eq_ok_iff.mp hj).1

theorem walk_concat {l k : Location} (hplain : IsPlainName name) (hfits : name.length ≤ nameLimit)
    (hwalk : fs.walk l names = .ok k) (hlast : fs.find? k = some .directory)
    : fs.walk l (names ++ [name]) = .ok (k ++ [name]) := by
  rw [walk_append, hwalk]
  rw [Except.bind, walk_cons]
  rw [step_eq_ok_iff.mpr ⟨hlast, hfits, rfl⟩]
  rw [next_of_isPlainName hplain]
  rfl

theorem walk_of_free {l : Location} (hplain : ∀ name ∈ names, IsPlainName name)
    (hfits : ∀ name ∈ names, name.length ≤ nameLimit)
    (hfree : ∀ front rest, names = front ++ rest → rest ≠ [] →
      fs.find? (l ++ front) = some .directory ∨ fs.find? (l ++ front) = none)
    : fs.walk l names = .ok (l ++ names) ∨ fs.walk l names = .error .notFound := by
  induction names generalizing l with
  | nil => exact .inl (by simp [walk_nil])
  | cons name names ih =>
    rw [walk_cons]
    rcases hfree [] (name :: names) rfl (by simp) with hdirectory | hnone
    . have hstep : fs.step l name = .ok (l ++ [name]) := by
        rw [step_eq_ok_iff, next_of_isPlainName (hplain name (by simp))]
        exact ⟨by simpa using hdirectory, hfits name (by simp), rfl⟩
      rw [hstep]
      have := ih (l := l ++ [name]) (fun n hn => hplain n (by simp [hn]))
        (fun n hn => hfits n (by simp [hn])) ?_
      . simpa [Except.bind] using this
      . intro front rest heq hrest
        simpa using hfree (name :: front) rest (by simp [heq]) hrest
    . right
      rw [List.append_nil] at hnone
      simp [step, hnone, Except.bind]

variable {root : Location}

theorem makeDirectories_created_below (hroot : fs.locate p = .ok root)
    (hdirectory : fs.find? root = some .directory) (hplain : ∀ name ∈ names, IsPlainName name)
    (l : Location)
    : (fs.makeDirectories p.isAbsolute (p.names ++ names)).1.find? l = fs.find? l ∨
        ∃ front rest, names = front ++ rest ∧ l = root ++ front := by
  have hgrows := makeDirectories_grows fs p.isAbsolute (p.names ++ names)
  have hcreated := makeDirectories_created fs p.isAbsolute (p.names ++ names) l
  rcases hcreated with heq | ⟨front, rest, h, hl⟩
  . exact .inl heq
  . rcases List.append_eq_append_iff.mp h with ⟨front', rfl, hnames⟩ | ⟨rest', hbase, _⟩
    . right
      rw [locate_append _ p front', Except.bind_eq_ok_iff] at hl
      obtain ⟨k, hk, hl⟩ := hl
      cases hk.symm.trans (hgrows.keepsDirectories.locate_eq_ok hroot)
      refine ⟨front', rest, hnames, ((walk_eq_ok_iff ?_).mp hl).1⟩
      intro name hname
      exact hplain name (by simp [hnames, hname])
    . left
      have hp : p = { p with names := front ++ rest' } := by rw [← hbase]
      rw [hp, locate_append _ ⟨p.isAbsolute, front⟩ rest', Except.bind_eq_ok_iff] at hroot
      obtain ⟨k, hk, hroot⟩ := hroot
      cases hl.symm.trans (hgrows.keepsDirectories.locate_eq_ok hk)
      have hold : fs.find? l = some .directory := by
        cases rest' with
        | nil =>
          cases hroot
          exact hdirectory
        | cons name rest' => exact isDirectory_of_walk_cons hroot
      rw [hold]
      exact hgrows.find?_eq_some hold

theorem walk_of_makeDirectories_below (hroot : fs.locate p = .ok root)
    (hdirectory : fs.find? root = some .directory) (hplain : ∀ name ∈ names, IsPlainName name)
    (h : fs.makeDirectories p.isAbsolute (p.names ++ names) = (fs', .ok ()))
    : fs'.walk root names = .ok (root ++ names) ∧ fs'.find? (root ++ names) = some .directory := by
  have hgrows : Grows fs fs' := by
    simpa [h] using makeDirectories_grows fs p.isAbsolute (p.names ++ names)
  by_cases hnames : p.names ++ names = []
  . rw [List.append_eq_nil_iff] at hnames
    obtain ⟨_, rfl⟩ := hnames
    exact ⟨by simp [walk_nil], by simpa using hgrows.find?_eq_some hdirectory⟩
  . obtain ⟨l, hl, hlast⟩ := isDirectory_iff.mp (makeDirectories_eq_ok h hnames).2
    rw [locate_append _ p names, Except.bind_eq_ok_iff] at hl
    obtain ⟨k, hk, hl⟩ := hl
    cases hk.symm.trans (hgrows.keepsDirectories.locate_eq_ok hroot)
    obtain ⟨rfl, _⟩ := (walk_eq_ok_iff hplain).mp hl
    exact ⟨hl, hlast⟩

theorem ensure_eq_ok_of_free {l : Location} (hfault : pathFault? p.bytes = none)
    (hl : fs.locate p = .ok l) (hfree : fs.find? l = some .directory ∨ fs.find? l = none)
    : (fs.ensure p).2 = .ok () := by
  rcases hfree with hdirectory | hnone
  . rw [ensure_of_isDirectory hfault (isDirectory_iff.mpr ⟨l, hl, hdirectory⟩)]
  . unfold ensure makeDirectory
    simp [hfault, hl, hnone, accepted, bind, Except.bind]

/-- Where nothing but directories stands in the way, directories can be made below a directory. -/
theorem makeDirectories_below_eq_ok (hroot : fs.locate p = .ok root)
    (hdirectory : fs.find? root = some .directory)
    (hfault : pathFault? (Path.mk p.isAbsolute (p.names ++ names)).bytes = none)
    (hplain : ∀ name ∈ names, IsPlainName name)
    (hfits : ∀ name ∈ names, name.length ≤ nameLimit)
    (hfree : ∀ front rest, names = front ++ rest →
      fs.find? (root ++ front) = some .directory ∨ fs.find? (root ++ front) = none)
    : (fs.makeDirectories p.isAbsolute (p.names ++ names)).2 = .ok () := by
  -- A directory is made once the one above it stands, so the induction is on the last name.
  induction names using List.reverseRecOn with
  | nil =>
    rw [makeDirectories_of_isDirectory hfault]
    rw [List.append_nil]
    exact isDirectory_iff.mpr ⟨root, hroot, hdirectory⟩
  | append_singleton names name ih =>
    have hreverse : (p.names ++ (names ++ [name])).reverse
        = name :: (p.names ++ names).reverse := by
      simp
    have habove : (fs.makeDirectories p.isAbsolute (p.names ++ names)).2 = .ok () := by
      apply ih
      . rw [← List.reverse_reverse (p.names ++ (names ++ [name])), hreverse] at hfault
        simpa using makeDirectories.pathFault?_above hfault
      . exact fun n hn => hplain n (by simp [hn])
      . exact fun n hn => hfits n (by simp [hn])
      . exact fun front rest heq => hfree front (rest ++ [name]) (by simp [heq])
    have hcases := makeDirectories.go_cases fs p.isAbsolute name (p.names ++ names).reverse
    rw [← hreverse, List.reverse_reverse] at hcases
    rcases hcases with ⟨hfound, h⟩ | ⟨f, fault, _, hup, _⟩ | ⟨f, _, hup, h⟩
    . rw [makeDirectories, h]
      rcases walk_of_free hplain hfits (fun front rest heq _ => hfree front rest heq) with
        hwalk | hwalk
      . apply ensure_eq_ok_of_free hfault (l := root ++ (names ++ [name]))
        . rw [locate_append fs p, hroot]
          exact hwalk
        . exact hfree (names ++ [name]) [] (by simp)
      . exfalso
        apply hfound
        unfold makeDirectory
        have hl : fs.locate ⟨p.isAbsolute, p.names ++ (names ++ [name])⟩ = .error .notFound := by
          rw [locate_append fs p, hroot]
          exact hwalk
        simp [hfault, hl, bind, Except.bind]
    . rw [makeDirectories, hup] at habove
      simp at habove
    . rw [makeDirectories, h]
      have hgrows := makeDirectories_grows fs p.isAbsolute (p.names ++ names)
      rw [makeDirectories, hup] at hgrows
      obtain ⟨hwalk, hlast⟩ := walk_of_makeDirectories_below hroot hdirectory
        (fun n hn => hplain n (by simp [hn])) hup
      apply ensure_eq_ok_of_free hfault (l := root ++ (names ++ [name]))
      . rw [locate_append f p]
        rw [hgrows.keepsDirectories.locate_eq_ok hroot]
        rw [Except.bind]
        rw [walk_concat (hplain name (by simp)) (hfits name (by simp)) hwalk hlast]
        rw [List.append_assoc]
      . rcases hgrows.entry (root ++ (names ++ [name])) with heq | ⟨_, hnew⟩
        . rw [heq]
          exact hfree (names ++ [name]) [] (by simp)
        . exact .inl hnew

theorem makeDirectories_of_file {l : Location} {content : String}
    (hl : fs.locate p = .ok l) (hfile : fs.find? l = some (.file content))
    (hnames : p.names ≠ []) (rest : List Name)
    : ∃ fault, fs.makeDirectories p.isAbsolute (p.names ++ rest) = (fs, .error fault) := by
  have hlocate : fs.locate ⟨p.isAbsolute, p.names ++ rest⟩ = .ok l ∨
      fs.locate ⟨p.isAbsolute, p.names ++ rest⟩ = .error .notADirectory := by
    rw [locate_append fs p rest, hl]
    cases rest with
    | nil => exact .inl rfl
    | cons name rest =>
      right
      simp [Except.bind, walk_cons, step, hfile]
  have hmake : ∃ fault, fault ≠ .notFound ∧
      fs.makeDirectory ⟨p.isAbsolute, p.names ++ rest⟩ = .error fault := by
    rcases makeDirectory_cases fs ⟨p.isAbsolute, p.names ++ rest⟩ with ⟨fault, hfault, h⟩ |
      ⟨_, fault, hfault, h⟩ | ⟨_, _, _, _, _, h⟩ | ⟨_, k, hk, hnone, _⟩
    . refine ⟨fault, ?_, h⟩
      rintro rfl
      simpa using pathFault?_eq_some hfault
    . refine ⟨fault, ?_, h⟩
      rintro rfl
      simp [hfault] at hlocate
    . exact ⟨_, by simp, h⟩
    . simp only [hk, Except.ok.injEq, reduceCtorEq, or_false] at hlocate
      subst hlocate
      simp [hfile] at hnone
  obtain ⟨fault, hne, hmake⟩ := hmake
  have hensure : fs.ensure ⟨p.isAbsolute, p.names ++ rest⟩ = (fs, .error fault) := by
    rcases ensure_cases fs ⟨p.isAbsolute, p.names ++ rest⟩ with ⟨k, _, hk, hnone, _⟩ |
      ⟨_, hdirectory, _⟩ | ⟨fault', _, hmake', h⟩
    . simp only [hk, Except.ok.injEq, reduceCtorEq, or_false] at hlocate
      subst hlocate
      simp [hfile] at hnone
    . obtain ⟨k, hk, hlast⟩ := isDirectory_iff.mp hdirectory
      simp only [hk, Except.ok.injEq, reduceCtorEq, or_false] at hlocate
      subst hlocate
      simp [hfile] at hlast
    . cases hmake.symm.trans hmake'
      exact h
  refine ⟨fault, ?_⟩
  unfold makeDirectories
  cases hreverse : (p.names ++ rest).reverse with
  | nil => simp [hnames] at hreverse
  | cons name above =>
    rw [← List.reverse_reverse (p.names ++ rest), hreverse] at hmake hensure
    rw [makeDirectories.go_of_ne_notFound]
    . exact hensure
    . rw [hmake]
      simpa using hne

end Files
end Storage
end ChatTelemetry
