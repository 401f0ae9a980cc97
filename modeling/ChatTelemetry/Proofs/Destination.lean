import ChatTelemetry.Config.Load
import ChatTelemetry.Proofs.Locator
import ChatTelemetry.Proofs.Trace

/-!
This module shows which of the destinations that pass the check of settings stand for a backend.
-/

namespace ChatTelemetry

namespace Storage

theorem hasScheme_trim (cs : List Char) : hasScheme (Text.trim cs) = hasScheme cs := by
  obtain ⟨before, after, hcs, hbefore, hafter⟩ := Text.exists_strip Text.isBlank cs
  have hblank : ∀ {c}, Text.isBlank c = true → c ∉ "://".toList := by
    rintro c hc hmem
    have hmarks : ∀ d ∈ "://".toList, Text.isBlank d = false := by
      simp [Text.isBlank]
    simp [hmarks c hmem] at hc
  rw [Bool.eq_iff_iff]
  unfold hasScheme
  rw [Text.occursIn_iff, Text.occursIn_iff]
  conv_rhs => rw [hcs]
  rw [Text.infix_append_right_iff (by decide) (fun c hc => hblank (hafter c hc))]
  rw [Text.infix_append_left_iff (by decide) (fun c hc => hblank (hbefore c hc))]
  rfl

def Options.service (options : Options) : Url :=
  options.endpoint.getD Bucket.defaultEndpoint

theorem Bucket.exists_make_iff (name folder : String) (options : Options)
    : (∃ b, Bucket.make name folder options.endpoint options.token = .ok b) ↔
        name ≠ "" ∧ options.service.canBeBase = true := by
  unfold make
  by_cases hname : name = ""
  . simp [hname]
  . cases hservice : options.service.canBeBase with
    | false =>
      unfold Options.service at hservice
      simp [hname, hservice]
    | true =>
      unfold Options.service at hservice
      simp [hname, hservice]

theorem exists_filePath_iff {s : String} {u : Url} (h : Url.parse s = .ok u)
    (hfile : u.scheme = "file".toList)
    : (∃ path, u.filePath? = some path) ↔ u.host? = none := by
  have hpath := (Url.parse_ok h).1 hfile
  unfold Url.filePath? Url.host?
  rw [hpath, Option.map_eq_none_iff]
  cases u.authority.bind (·.host) with
  | none => simp
  | some host => simp

theorem bucketName_ne_empty_iff {s : String} {u : Url} (h : Url.parse s = .ok u)
    (hother : u.scheme ≠ "file".toList)
    : String.ofList (u.host?.getD []) ≠ "" ↔ u.host? ≠ none := by
  have hhost := (Url.parse_ok h).2 hother
  cases hu : u.host? with
  | none => simp
  | some name =>
    rw [hu] at hhost
    simpa using hhost name rfl

/-- Whether a locator stands for a place where content can be stored. -/
def IsUsable (options : Options) (u : Url) : Prop :=
  u.scheme = "file".toList ∧ u.host? = none ∨
    u.scheme = "gs".toList ∧ u.host? ≠ none ∧ options.service.canBeBase = true

theorem exists_backend_iff {destination : String} {options : Options}
    : (∃ b, Backend.ofDestination destination options = .ok b) ↔
        Text.trim destination.toList ≠ [] ∧
        (hasScheme destination.toList = true → ∃ u,
          Url.parse (.ofList (Text.trim destination.toList)) = .ok u ∧ IsUsable options u) := by
  rw [← hasScheme_trim]
  unfold Backend.ofDestination
  dsimp only
  generalize Text.trim destination.toList = trimmed
  by_cases hempty : trimmed = []
  . simp [hempty]
  . rw [if_neg (by simpa using hempty)]
    cases hasScheme trimmed with
    | false => simp [hempty]
    | true =>
      cases hparse : Url.parse (.ofList trimmed) with
      | error e => simp
      | ok u =>
        simp only [if_true, Except.ok.injEq, exists_eq_left', true_implies]
        unfold IsUsable
        by_cases hfile : u.scheme = "file".toList
        . rw [← exists_filePath_iff hparse hfile]
          cases u.filePath? with
          | none => simp [hfile]
          | some path => simp [hfile, hempty]
        . rw [← bucketName_ne_empty_iff hparse hfile]
          by_cases hbucket : u.scheme = "gs".toList
          . rw [← Bucket.exists_make_iff _ (.ofList u.path)]
            cases Bucket.make (.ofList (u.host?.getD [])) (.ofList u.path) options.endpoint
                options.token with
            | error e => simp [hbucket, Except.map]
            | ok b => simp [hbucket, hempty, Except.map]
          . rw [if_neg hfile, if_neg hbucket]
            simp only [hfile, hbucket, false_and, or_self, and_false, exists_false, reduceCtorEq]

end Storage

namespace Config

open Storage (Backend Options IsUsable hasScheme)

theorem checkDestination_eq_ok_iff {basePath : String}
    : checkDestination basePath = .ok () ↔
        Text.trim basePath.toList ≠ [] ∧
        (hasScheme basePath.toList = true → ∃ u, Url.parse basePath = .ok u ∧
          (u.scheme = "file".toList ∨ u.scheme = "gs".toList ∧ u.host? ≠ none)) := by
  unfold checkDestination
  by_cases hempty : Text.trim basePath.toList = []
  . simp [hempty]
  . rw [if_neg (by simpa using hempty)]
    cases hasScheme basePath.toList with
    | false => simp [hempty]
    | true =>
      cases Url.parse basePath with
      | error e => simp
      | ok u =>
        simp only [if_true, Except.ok.injEq, exists_eq_left', true_implies]
        by_cases hfile : u.scheme = "file".toList
        . simp [hfile, hempty]
        . by_cases hbucket : u.scheme = "gs".toList
          . cases u.host? with
            | none => simp [hbucket]
            | some name => simp [hbucket, hempty]
          . rw [if_neg hfile, if_neg hbucket]
            simp only [hfile, hbucket, false_and, or_self, and_false, reduceCtorEq]

theorem validate_of_ofText {env : Environment} {text : String} {s : Settings}
    (h : ofText env text = .ok s)
    : s.validate = .ok () := by
  unfold ofText at h
  repeat' split at h
  all_goals cases h
  assumption

theorem Upload.exists_install_iff {u : Upload} {basePath : String}
    (hbasePath : u.basePath = some basePath) (w : World)
    : (∃ isNew, (u.install w).1 = .ok isNew) ↔
        ∃ b, Backend.ofDestination basePath (u.options w.environment) = .ok b := by
  unfold install
  rw [hbasePath]
  dsimp only
  cases Backend.ofDestination basePath (u.options w.environment) with
  | error e => simp
  | ok b =>
    dsimp only
    split <;> simp

/--
Suppose the white space around a destination that passes the check is the one that locators may
have around them. Then it stands for a backend unless it is a file of another host, or a bucket of
a service to whose locator no path can be added.
-/
theorem configured_backend_iff {env : Environment} {text : String} {s : Settings}
    (hs : ofText env text = .ok s) {basePath : String}
    (hbasePath : s.upload.basePath = some basePath) {before after : List Char}
    (htrim : basePath.toList = before ++ Text.trim basePath.toList ++ after)
    (hblank : ∀ c ∈ before ++ after, c ≤ ' ') (w : World)
    : let options := s.upload.options w.environment
      let isUsable := hasScheme basePath.toList = true → ∀ u, Url.parse basePath = .ok u →
        (u.scheme = "file".toList → u.host? = none) ∧
          (u.scheme = "gs".toList → options.service.canBeBase = true)
      ((∃ b, Backend.ofDestination basePath options = .ok b) ↔ isUsable) ∧
        ((∃ isNew, (s.upload.install w).1 = .ok isNew) ↔ isUsable) := by
  intro options isUsable
  have hvalid := validate_of_ofText hs
  unfold Settings.validate at hvalid
  rw [hbasePath] at hvalid
  obtain ⟨hempty, hchecked⟩ := checkDestination_eq_ok_iff.mp hvalid
  have hparse : Url.parse (.ofList (Text.trim basePath.toList)) = Url.parse basePath := by
    rw [← Url.parse_append hblank, ← htrim, String.ofList_toList]
  have hbackend : (∃ b, Backend.ofDestination basePath options = .ok b) ↔ isUsable := by
    rw [Storage.exists_backend_iff, hparse]
    constructor
    . rintro ⟨_, h⟩ hscheme u hu
      obtain ⟨u', hu', husable⟩ := h hscheme
      obtain rfl : u' = u := by simpa [hu'] using hu
      rcases husable with ⟨hfile, hhost⟩ | ⟨hbucket, _, hservice⟩
      . refine ⟨fun _ => hhost, ?_⟩
        intro hbucket
        exact absurd (hfile.symm.trans hbucket) (by decide)
      . refine ⟨?_, fun _ => hservice⟩
        intro hfile
        exact absurd (hbucket.symm.trans hfile) (by decide)
    . intro h
      refine ⟨hempty, ?_⟩
      intro hscheme
      obtain ⟨u, hu, hplace⟩ := hchecked hscheme
      obtain ⟨hhost, hservice⟩ := h hscheme u hu
      refine ⟨u, hu, ?_⟩
      rcases hplace with hfile | ⟨hbucket, hname⟩
      . exact Or.inl ⟨hfile, hhost hfile⟩
      . exact Or.inr ⟨hbucket, hname, hservice hbucket⟩
  exact ⟨hbackend, (Upload.exists_install_iff hbasePath w).trans hbackend⟩

/-- A bucket with blanks around it, of a service on this machine. -/
theorem configured_backend_iff_of_local_bucket
    : let text := "upload.base_path = \" gs://b \"\nupload.gcs.endpoint = \"http://localhost\"\n"
      ∃ s, ofText [] text = .ok s ∧ s.upload.basePath = some " gs://b " ∧
        ∃ isNew, (s.upload.install World.blank).1 = .ok isNew := by
  intro text
  let service : Url :=
    { scheme := "http".toList
      authority := some { host := some (.domain "localhost".toList) }
      path := ['/'] }
  let s : Settings :=
    { upload := { basePath := some " gs://b ", gcs := some { endpoint := some service } } }
  have hs : ofText [] text = .ok s := by
    apply Except.toOption_eq_some_iff.mp
    decide +kernel
  refine ⟨s, hs, rfl, ?_⟩
  have hiff := @configured_backend_iff [] text s hs _ rfl [' '] [' '] (by decide) (by simp)
    World.blank
  apply hiff.2.mpr
  intro _ u hu
  have hbucket : (Url.parse " gs://b ").toOption.map (·.scheme) = some "gs".toList := by
    decide +kernel
  rw [hu] at hbucket
  refine ⟨?_, fun _ => rfl⟩
  intro hfile
  simp [Except.toOption, hfile] at hbucket

/-- The check does not look at the host of a file. -/
theorem checked_destination_without_backend
    : ∃ s basePath, ofText [] "upload.base_path = \"file://host/data\"\n" = .ok s ∧
        s.upload.basePath = some basePath ∧
        ¬∃ b, Backend.ofDestination basePath (s.upload.options []) = .ok b := by
  refine ⟨{ upload := { basePath := some "file://host/data" } }, _, ?_, rfl, ?_⟩
  . apply Except.toOption_eq_some_iff.mp
    decide +kernel
  . apply Except.toOption_eq_none_iff.mp
    decide +kernel

end Config
end ChatTelemetry
