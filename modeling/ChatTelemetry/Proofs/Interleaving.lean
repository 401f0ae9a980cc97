import ChatTelemetry.Proofs.Turns
import Mathlib.Data.List.Nodup

/-!
This module shows that uploads into one directory come to the same in whatever order they take
turns.
-/

namespace ChatTelemetry

namespace Storage

open Json (Value)

/-- The same stands everywhere in both. -/
structure Files.Same (fs fs' : Files) : Prop where
  workingDirectory : fs'.workingDirectory = fs.workingDirectory
  entry : ∀ l, fs'.find? l = fs.find? l

namespace Filesystem

open Files (KeepsDirectories keepsDirectories_put keepsDirectories_of_put_file)

variable {base : List UInt8} {n m : String} {fs fs' : Files} {l : Location}

/-! ### What any schedule comes to -/

/-- How far the upload of an object can have come as long as no directory has been made. -/
def IsUnbegun (name : String) : Progress → Prop
  | .waiting => True
  | .prepared => False
  | .finished r => isObjectName name = false ∧ ∃ e, r = .error e

/-- How far uploads can have come where the directory for them cannot be made. -/
def IsRefused : Progress → Prop
  | .waiting => True
  | .prepared => False
  | .finished r => ∃ e, r = .error e

/-- How far the upload of an object can have come where the directories stand, in `g`. -/
def IsServed (base : List UInt8) (g : Files) (name : String) : Progress → Prop
  | .waiting => True
  | .prepared => isObjectName name = true
  | .finished (.ok locator) => locator = shownPath (objectPath base name) ∧ ∃ l, Takes base g name l
  | .finished (.error _) => ¬∃ l, Takes base g name l

theorem IsUnbegun.isRefused {p : Progress} (h : IsUnbegun n p) : IsRefused p := by
  cases p with
  | waiting => trivial
  | prepared => exact h
  | finished r => exact h.2

theorem IsUnbegun.isServed {p : Progress} (h : IsUnbegun n p) : IsServed base fs n p := by
  cases p with
  | waiting => trivial
  | prepared => exact h.elim
  | finished r =>
    obtain ⟨hname, e, rfl⟩ := h
    rintro ⟨l, hl⟩
    simp [hl.name] at hname

/-- Whether the file of an object has been written. -/
def Underway.HasWritten (s : Underway) (name : String) : Prop :=
  ∃ locator, s.progress name = .finished (.ok locator)

/-- The files are `g` and, over it, those that have been written. -/
def Underway.Holds (s : Underway) (base : List UInt8) (g : Files) (uploads : List (String × Value))
    : Prop :=
  ∀ l,
    (∃ u ∈ uploads, s.HasWritten u.1 ∧ Takes base g u.1 l ∧
      s.files.find? l = some (.file u.2.text)) ∨
    ((∀ u ∈ uploads, s.HasWritten u.1 → ¬Takes base g u.1 l) ∧ s.files.find? l = g.find? l)

/--
What can have come of uploads whose files all go into the directory `above`, in files that were
`fs` to begin with: no directory has been made yet, or it cannot be made, or it stands and has the
files in it that have been written.
-/
inductive Reached (base : List UInt8) (fs : Files) (above : Path) (uploads : List (String × Value))
    (s : Underway) : Prop
  | unbegun (files : s.files = fs) (progress : ∀ n, IsUnbegun n (s.progress n))
  | refused {fault : PathFault} (begun : ∃ u ∈ uploads, isObjectName u.1 = true)
    (made : fs.makeDirectories above.isAbsolute above.names = (s.files, .error fault))
    (progress : ∀ n, IsRefused (s.progress n))
  | served {g : Files} (begun : ∃ u ∈ uploads, isObjectName u.1 = true)
    (made : fs.makeDirectories above.isAbsolute above.names = (g, .ok ()))
    (keeps : KeepsDirectories g s.files) (kept : KeepsDirectories s.files g)
    (progress : ∀ n, IsServed base g n (s.progress n)) (holds : s.Holds base g uploads)

namespace Underway

variable {s : Underway} {come : Progress × Files} {uploads : List (String × Value)}

theorem forall_progress_set {P : String → Progress → Prop} (h : ∀ m, P m (s.progress m))
    (hn : P n come.1)
    : ∀ m, P m ((s.set n come).progress m) := by
  intro m
  unfold set
  dsimp only
  split
  . next heq =>
    subst heq
    exact hn
  . exact h m

theorem hasWritten_set_iff
    : (s.set n come).HasWritten m
        ↔
      if m = n then ∃ locator, come.1 = .finished (.ok locator) else s.HasWritten m := by
  unfold HasWritten set
  dsimp only
  split
  . rfl
  . rfl

/-- The files hold what they held if one more upload has come further and has written nothing. -/
theorem Holds.set (h : s.Holds base fs uploads) {p : Progress} (hold : ¬s.HasWritten n)
    (hnew : ∀ locator, p ≠ .finished (.ok locator))
    : (s.set n (p, s.files)).Holds base fs uploads := by
  have hwritten : ∀ m, (s.set n (p, s.files)).HasWritten m ↔ s.HasWritten m := by
    intro m
    rw [hasWritten_set_iff]
    split
    . next heq =>
      subst heq
      simp [hnew, hold]
    . rfl
  intro l
  simp only [hwritten]
  exact h l

theorem Holds.set_put (h : s.Holds base fs uploads) {u : String × Value} (hu : u ∈ uploads)
    (hl : Takes base fs u.1 l) (locator : String)
    : (s.set u.1 (.finished (.ok locator), s.files.put l (.file u.2.text))).Holds base fs
        uploads := by
  have hroot : l ≠ [] := by
    rintro rfl
    exact hl.free (Files.find?_nil fs)
  intro k
  simp only [hasWritten_set_iff]
  by_cases hk : k = l
  . subst hk
    left
    exact ⟨u, hu, by simp, hl, Files.find?_put_self hroot ..⟩
  . rw [show (s.set u.1 _).files = s.files.put l _ from rfl, Files.find?_put_of_ne hk]
    rcases h k with ⟨u', hu', hwritten, hk', hfile⟩ | ⟨hnone, hfile⟩
    . left
      refine ⟨u', hu', ?_, hk', hfile⟩
      split
      . simp
      . exact hwritten
    . right
      refine ⟨?_, hfile⟩
      intro u' hu' hwritten
      split at hwritten
      . next heq =>
        intro hk'
        rw [heq] at hk'
        exact hk (Except.ok.inj (hk'.located.symm.trans hl.located))
      . exact hnone u' hu' hwritten

end Underway

namespace Reached

variable {above : Path} {uploads : List (String × Value)} {s : Underway} {u : String × Value}

/-- Nothing is done any more for an upload that has come to its end. -/
theorem step_of_finished (h : Reached base fs above uploads s) {r : Except UploadError String}
    (hr : s.progress u.1 = .finished r)
    : Reached base fs above uploads (s.step base u) := by
  have hstep : s.step base u = s := by
    unfold Underway.step Underway.set
    rw [hr]
    simp only [advance]
    congr 1
    funext n
    split
    . next heq => rw [heq, hr]
    . rfl
  rwa [hstep]

theorem step_of_not_isObjectName (h : Reached base fs above uploads s)
    (hname : isObjectName u.1 = false) (hwaiting : s.progress u.1 = .waiting)
    : Reached base fs above uploads (s.step base u) := by
  have hold : ¬s.HasWritten u.1 := by simp [Underway.HasWritten, hwaiting]
  unfold Underway.step
  rw [hwaiting, advance_of_not_isObjectName hname]
  cases h with
  | unbegun files progress =>
    exact .unbegun files (Underway.forall_progress_set progress ⟨hname, _, rfl⟩)
  | refused begun made progress =>
    exact .refused begun made (Underway.forall_progress_set progress ⟨_, rfl⟩)
  | served begun made keeps kept progress holds =>
    refine .served begun made keeps kept (Underway.forall_progress_set progress ?_)
      (holds.set hold (by simp))
    rintro ⟨l, hl⟩
    simp [hl.name] at hname

/-- The directories are made that a file goes into, or it turns out that they cannot be made; for
all but the first upload nothing is left to make. -/
theorem step_of_waiting (h : Reached base fs above uploads s) (hu : u ∈ uploads)
    (hname : isObjectName u.1 = true)
    (habove : (Path.ofBytes (objectPath base u.1)).parent = above)
    (hwaiting : s.progress u.1 = .waiting)
    : Reached base fs above uploads (s.step base u) := by
  have hold : ¬s.HasWritten u.1 := by simp [Underway.HasWritten, hwaiting]
  unfold Underway.step
  rw [hwaiting]
  cases h with
  | unbegun files progress =>
    rw [files]
    cases hmade : fs.makeDirectories above.isAbsolute above.names with
    | mk g r =>
      cases r with
      | ok _ =>
        rw [advance_of_made hname habove hmade]
        refine .served ⟨u, hu, hname⟩ hmade (.refl g) (.refl g)
          (Underway.forall_progress_set (P := IsServed base g)
            (fun m => (progress m).isServed) hname) ?_
        intro l
        right
        refine ⟨?_, rfl⟩
        intro u' _ hwritten
        rw [Underway.hasWritten_set_iff] at hwritten
        split at hwritten
        . simp at hwritten
        . obtain ⟨locator, hlocator⟩ := hwritten
          have := progress u'.1
          simp [hlocator, IsUnbegun] at this
      | error fault =>
        rw [advance_of_unmade hname habove hmade]
        exact .refused ⟨u, hu, hname⟩ hmade (Underway.forall_progress_set (P := fun _ => IsRefused)
          (fun m => (progress m).isRefused) ⟨_, rfl⟩)
  | refused begun made progress =>
    obtain ⟨r, hagain, hr⟩ := Files.makeDirectories_again fs above.isAbsolute above.names
    rw [made] at hagain hr
    cases r with
    | ok _ => simp at hr
    | error fault =>
      rw [advance_of_unmade hname habove hagain]
      exact .refused begun made (Underway.forall_progress_set progress ⟨_, rfl⟩)
  | served begun made keeps kept progress holds =>
    rw [advance_of_made hname habove (Files.makeDirectories_of_keepsDirectories made keeps)]
    exact .served begun made keeps kept (Underway.forall_progress_set progress hname)
      (holds.set hold (by simp))

theorem step_of_prepared (h : Reached base fs above uploads s) (hu : u ∈ uploads)
    (hprepared : s.progress u.1 = .prepared)
    : Reached base fs above uploads (s.step base u) := by
  have hold : ¬s.HasWritten u.1 := by simp [Underway.HasWritten, hprepared]
  unfold Underway.step
  rw [hprepared]
  cases h with
  | unbegun files progress =>
    have := progress u.1
    simp [hprepared, IsUnbegun] at this
  | refused begun made progress =>
    have := progress u.1
    simp [hprepared, IsRefused] at this
  | @served g begun made keeps kept progress holds =>
    have hname : isObjectName u.1 = true := by
      have := progress u.1
      rwa [hprepared] at this
    rcases advance_prepared_cases base hname u.2 s.files with
      ⟨l, hl, hadvance⟩ | ⟨hnot, fault, hadvance⟩
    . rw [hadvance]
      have hg : Takes base g u.1 l := hl.of_keepsDirectories kept keeps
      exact .served begun made (keeps.trans (keepsDirectories_put hl.free _))
        ((keepsDirectories_of_put_file ..).trans kept)
        (Underway.forall_progress_set progress ⟨rfl, l, hg⟩) (holds.set_put hu hg _)
    . rw [hadvance]
      refine .served begun made keeps kept (Underway.forall_progress_set progress ?_)
        (holds.set hold (by simp))
      rintro ⟨l, hl⟩
      exact hnot ⟨l, hl.of_keepsDirectories keeps kept⟩

theorem start (base : List UInt8) (fs : Files) (above : Path) (uploads : List (String × Value))
    : Reached base fs above uploads (Underway.start fs) :=
  .unbegun rfl fun _ => trivial

theorem step (h : Reached base fs above uploads s) (hu : u ∈ uploads)
    (habove : isObjectName u.1 = true →
      (Path.ofBytes (objectPath base u.1)).parent = above)
    : Reached base fs above uploads (s.step base u) := by
  cases hp : s.progress u.1 with
  | waiting =>
    cases hname : isObjectName u.1 with
    | false => exact h.step_of_not_isObjectName hname hp
    | true => exact h.step_of_waiting hu hname (habove hname) hp
  | prepared => exact h.step_of_prepared hu hp
  | finished r => exact h.step_of_finished hp

variable (habove : ∀ u ∈ uploads, isObjectName u.1 = true →
  (Path.ofBytes (objectPath base u.1)).parent = above)

include habove

theorem follow (h : Reached base fs above uploads s) {schedule : List (String × Value)}
    (hschedule : ∀ u ∈ schedule, u ∈ uploads)
    : Reached base fs above uploads (s.follow base schedule) := by
  induction schedule generalizing s with
  | nil => exact h
  | cons u schedule ih =>
    have hu := hschedule u List.mem_cons_self
    apply ih (h.step hu (habove u hu))
    exact fun u' hu' => hschedule u' (List.mem_cons_of_mem _ hu')

/-- An upload comes to the locator that it would come to alone. -/
theorem locatorOf_eq (h : Reached base fs above uploads s) (hu : u ∈ uploads)
    {r : Except UploadError String} (hr : s.progress u.1 = .finished r)
    : locatorOf (some r) = locatorOf (some (upload base u.1 u.2 fs).result) := by
  apply Handle.locatorOf_eq_of_ok_iff
  intro locator
  rw [upload_eq_ok_iff]
  cases h with
  | unbegun files progress =>
    have hp := progress u.1
    rw [hr] at hp
    obtain ⟨hname, e, rfl⟩ := hp
    simp [hname]
  | refused begun made progress =>
    have hp := progress u.1
    rw [hr] at hp
    obtain ⟨e, rfl⟩ := hp
    simp only [reduceCtorEq, false_iff]
    rintro ⟨hname, _, f, f', hmade, _⟩
    rw [habove u hu hname, made] at hmade
    simp at hmade
  | @served g begun made keeps kept progress holds =>
    have hp := progress u.1
    rw [hr] at hp
    cases r with
    | ok locator' =>
      obtain ⟨rfl, l, hl⟩ := hp
      rw [habove u hu hl.name, made]
      constructor
      . rintro ⟨⟩
        exact ⟨hl.name, rfl, g, _, rfl, (write_eq_ok_iff_takes hl.name _).mpr ⟨l, hl, rfl⟩⟩
      . rintro ⟨_, rfl, _⟩
        rfl
    | error e =>
      simp only [reduceCtorEq, false_iff]
      rintro ⟨hname, _, f, f', hmade, hwrite⟩
      rw [habove u hu hname, made] at hmade
      cases hmade
      obtain ⟨l, hl, _⟩ := (write_eq_ok_iff_takes hname _).mp hwrite
      exact hp ⟨l, hl⟩

end Reached

/-! ### All schedules come to the same -/

section Finished

variable {g : Files} {s s' : Underway} {uploads : List (String × Value)}
  (hfinished : ∀ u ∈ uploads, ∃ r, s.progress u.1 = .finished r)

include hfinished

theorem hasWritten_iff (progress : ∀ n, IsServed base g n (s.progress n)) {u : String × Value}
    (hu : u ∈ uploads)
    : s.HasWritten u.1 ↔ ∃ l, Takes base g u.1 l := by
  obtain ⟨r, hr⟩ := hfinished u hu
  have hp := progress u.1
  rw [hr] at hp
  unfold Underway.HasWritten
  rw [hr]
  cases r with
  | ok locator => simpa using hp.2
  | error e =>
    have hnone : ¬∃ l, Takes base g u.1 l := hp
    simp [hnone]

theorem isObjectName_of_unbegun (progress : ∀ n, IsUnbegun n (s.progress n))
    {u : String × Value} (hu : u ∈ uploads)
    : isObjectName u.1 = false := by
  obtain ⟨r, hr⟩ := hfinished u hu
  have hp := progress u.1
  rw [hr] at hp
  exact hp.1

variable (hnames : (uploads.map Prod.fst).Nodup)
  (hfinished' : ∀ u ∈ uploads, ∃ r, s'.progress u.1 = .finished r)

include hnames hfinished'

theorem Underway.Holds.same (h : s.Holds base g uploads) (h' : s'.Holds base g uploads)
    (progress : ∀ n, IsServed base g n (s.progress n))
    (progress' : ∀ n, IsServed base g n (s'.progress n)) (l : Location)
    : s'.files.find? l = s.files.find? l := by
  have hwritten : ∀ u ∈ uploads, s.HasWritten u.1 ↔ s'.HasWritten u.1 := by
    intro u hu
    rw [hasWritten_iff hfinished progress hu, hasWritten_iff hfinished' progress' hu]
  rcases h l with ⟨u, hu, hdone, hl, hfile⟩ | ⟨hnone, hfile⟩
  . rcases h' l with ⟨u', hu', _, hl', hfile'⟩ | ⟨hnone', _⟩
    . obtain rfl := List.inj_on_of_nodup_map hnames hu hu' (hl.injective hl')
      rw [hfile, hfile']
    . exact absurd hl (hnone' u hu ((hwritten u hu).mp hdone))
  . rcases h' l with ⟨u', hu', hdone', hl', _⟩ | ⟨_, hfile'⟩
    . exact absurd hl' (hnone u' hu' ((hwritten u' hu').mpr hdone'))
    . rw [hfile, hfile']

theorem Reached.same {above : Path} (h : Reached base fs above uploads s)
    (h' : Reached base fs above uploads s')
    : s.files.Same s'.files := by
  cases h with
  | unbegun files progress =>
    have hno := fun u hu => isObjectName_of_unbegun hfinished progress (u := u) hu
    cases h' with
    | unbegun files' => exact ⟨by rw [files, files'], fun _ => by rw [files, files']⟩
    | refused begun =>
      obtain ⟨u, hu, hname⟩ := begun
      simp [hno u hu] at hname
    | served begun =>
      obtain ⟨u, hu, hname⟩ := begun
      simp [hno u hu] at hname
  | refused begun made =>
    cases h' with
    | unbegun files' progress' =>
      obtain ⟨u, hu, hname⟩ := begun
      simp [isObjectName_of_unbegun hfinished' progress' hu] at hname
    | refused _ made' =>
      have hfiles : s.files = s'.files := congrArg Prod.fst (made.symm.trans made')
      exact ⟨by rw [hfiles], fun _ => by rw [hfiles]⟩
    | served _ made' => simp [made] at made'
  | served begun made keeps kept progress holds =>
    cases h' with
    | unbegun files' progress' =>
      obtain ⟨u, hu, hname⟩ := begun
      simp [isObjectName_of_unbegun hfinished' progress' hu] at hname
    | refused _ made' => simp [made] at made'
    | served _ made' keeps' kept' progress' holds' =>
      cases made.symm.trans made'
      refine ⟨(kept.trans keeps').workingDirectory, ?_⟩
      exact holds.same hfinished hnames hfinished' holds' progress progress'

end Finished

/-! ### Uploads one after another -/

theorem advance_advance (base : List UInt8) (name : String) (v : Value) (fs : Files)
    : let come := advance base name v .waiting fs
      advance base name v come.1 come.2
        =
      (.finished (upload base name v fs).result, (upload base name v fs).files) := by
  unfold upload
  cases hname : isObjectName name with
  | false => simp [advance, hname]
  | true =>
    unfold Files.store
    cases hmade : fs.makeDirectories (Path.ofBytes (objectPath base name)).parent.isAbsolute
      (Path.ofBytes (objectPath base name)).parent.names with
    | mk f r =>
      cases r with
      | error fault => simp [advance, hname, hmade]
      | ok _ =>
        cases hwrite : f.write (objectPath base name) v.text with
        | error fault => simp [advance, hname, hmade, hwrite]
        | ok f' => simp [advance, hname, hmade, hwrite]

theorem Underway.step_step_of_waiting (base : List UInt8) {s : Underway} {u : String × Value}
    (hwaiting : s.progress u.1 = .waiting)
    : (s.step base u).step base u
        =
      s.set u.1 (.finished (upload base u.1 u.2 s.files).result,
        (upload base u.1 u.2 s.files).files) := by
  rw [← advance_advance]
  unfold step
  rw [hwaiting]
  unfold set
  dsimp only
  rw [if_pos rfl]
  congr 1
  funext n
  split
  . rfl
  . rfl

theorem Underway.progress_follow_of_not_mem {schedule : List (String × Value)} {s : Underway}
    (h : n ∉ schedule.map Prod.fst)
    : (s.follow base schedule).progress n = s.progress n := by
  induction schedule generalizing s with
  | nil => rfl
  | cons u schedule ih =>
    rw [List.map_cons, List.mem_cons, not_or] at h
    have hrest := @ih (s.step base u) h.2
    unfold follow at hrest ⊢
    rw [List.foldl_cons, hrest]
    exact if_neg h.1

/-- Whole uploads one after another are a schedule in which each has both of its turns at once. -/
theorem follow_whole (base : List UInt8) {uploads : List (String × Value)} {s : Underway}
    (hnames : (uploads.map Prod.fst).Nodup) (hwaiting : ∀ u ∈ uploads, s.progress u.1 = .waiting)
    : let followed := s.follow base (uploads.flatMap fun u => [u, u])
      let uploaded := uploadAll base uploads s.files
      followed.files = uploaded.2 ∧
        ∀ u r, (u, r) ∈ uploads.zip uploaded.1 → followed.progress u.1 = .finished r := by
  intro followed uploaded
  induction uploads generalizing s with
  | nil => exact ⟨rfl, by simp⟩
  | cons u uploads ih =>
    rw [List.map_cons, List.nodup_cons] at hnames
    let o := upload base u.1 u.2 s.files
    let next := s.set u.1 (.finished o.result, o.files)
    have hfollowed : followed = next.follow base (uploads.flatMap fun u => [u, u]) := by
      have hu := Underway.step_step_of_waiting base (hwaiting u List.mem_cons_self)
      unfold followed Underway.follow
      rw [List.flatMap_cons, List.foldl_append, List.foldl_cons, List.foldl_cons, List.foldl_nil]
      rw [hu]
    have hnext : ∀ u' ∈ uploads, next.progress u'.1 = .waiting := by
      intro u' hu'
      have hne : u'.1 ≠ u.1 := by
        intro heq
        exact hnames.1 (heq ▸ List.mem_map_of_mem hu')
      rw [show next.progress u'.1 = s.progress u'.1 from if_neg hne]
      exact hwaiting u' (List.mem_cons_of_mem _ hu')
    obtain ⟨hfiles, hprogress⟩ := ih hnames.2 hnext
    rw [hfollowed]
    refine ⟨hfiles, ?_⟩
    intro u' r hmem
    have hzip : (u :: uploads).zip uploaded.1
        = (u, o.result) :: uploads.zip (uploadAll base uploads o.files).1 := rfl
    rw [hzip, List.mem_cons] at hmem
    rcases hmem with heq | hmem
    . obtain ⟨rfl, rfl⟩ := Prod.mk.inj heq
      rw [Underway.progress_follow_of_not_mem]
      . exact if_pos rfl
      . simpa [List.map_flatMap] using hnames.1
    . exact hprogress u' r hmem

theorem perm_whole {order uploads : List α} (h : order.Perm uploads)
    : (order.flatMap fun u => [u, u]).Perm (uploads ++ uploads) := by
  have hwhole := List.flatMap_append_perm order (fun u => [u]) (fun u => [u])
  simp only [List.flatMap_singleton', List.singleton_append] at hwhole
  exact hwhole.symm.trans (h.append h)

/--
Uploads of different objects into one directory come to the same in the order of any schedule that
gives each of them its two turns: to the locators that they would come to alone, and to the files
that there are if one follows the other.
-/
theorem follow_of_perm {uploads schedule : List (String × Value)} {above : Path}
    (hnames : (uploads.map Prod.fst).Nodup)
    (habove : ∀ u ∈ uploads, isObjectName u.1 = true →
      (Path.ofBytes (objectPath base u.1)).parent = above)
    (hschedule : schedule.Perm (uploads ++ uploads)) (fs : Files)
    : let s := (Underway.start fs).follow base schedule
      (∀ u ∈ uploads, ∃ r, s.progress u.1 = .finished r ∧
        locatorOf (some r) = locatorOf (some (upload base u.1 u.2 fs).result)) ∧
      s.files.Same (uploadAll base uploads fs).2 := by
  intro s
  have hreached : ∀ order : List (String × Value), order.Perm (uploads ++ uploads) →
      Reached base fs above uploads ((Underway.start fs).follow base order) := by
    intro order horder
    apply (Reached.start base fs above uploads).follow habove
    intro u hu
    simpa using horder.mem_iff.mp hu
  have hwhole := perm_whole (List.Perm.refl uploads)
  refine ⟨?_, ?_⟩
  . intro u hu
    obtain ⟨r, hr⟩ := Underway.finished_of_perm hschedule fs hu
    exact ⟨r, hr, (hreached schedule hschedule).locatorOf_eq habove hu hr⟩
  . have hfiles := (follow_whole base (s := .start fs) hnames (fun _ _ => rfl)).1
    rw [show fs = (Underway.start fs).files from rfl, ← hfiles]
    exact (hreached schedule hschedule).same
      (fun u hu => Underway.finished_of_perm hschedule fs hu) hnames
      (fun u hu => Underway.finished_of_perm hwhole fs hu) (hreached _ hwhole)

/-- The same holds of whole uploads that follow one another in any order. -/
theorem uploadAll_of_perm {uploads order : List (String × Value)} {above : Path}
    (hnames : (uploads.map Prod.fst).Nodup)
    (habove : ∀ u ∈ uploads, isObjectName u.1 = true →
      (Path.ofBytes (objectPath base u.1)).parent = above)
    (horder : order.Perm uploads) (fs : Files)
    : let uploaded := uploadAll base order fs
      (∀ u r, (u, r) ∈ order.zip uploaded.1 →
        locatorOf (some r) = locatorOf (some (upload base u.1 u.2 fs).result)) ∧
      uploaded.2.Same (uploadAll base uploads fs).2 := by
  intro uploaded
  obtain ⟨hlocators, hsame⟩ := follow_of_perm hnames habove (perm_whole horder) fs
  have hnames' : (order.map Prod.fst).Nodup := (horder.map Prod.fst).nodup_iff.mpr hnames
  obtain ⟨hfiles, hprogress⟩ :=
    follow_whole base (s := .start fs) hnames' (fun _ _ => rfl)
  refine ⟨?_, ?_⟩
  . intro u r hmem
    obtain ⟨r', hr', hlocator⟩ := hlocators u (horder.mem_iff.mp (List.of_mem_zip hmem).1)
    cases hr'.symm.trans (hprogress u r hmem)
    exact hlocator
  . rw [hfiles] at hsame
    exact hsame

end Filesystem
end Storage
end ChatTelemetry
