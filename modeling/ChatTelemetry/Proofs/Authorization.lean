import ChatTelemetry.Proofs.ObjectRequest
import ChatTelemetry.Proofs.SharedBackend

/-!
This module shows with which token requests are sent to storage services. An empty one is sent only
where the settings, or the program itself, give an empty one.
-/

namespace ChatTelemetry

open Config (Upload)
open Json (Value)
open Storage (Backend Bucket Cell Handle Options Request environmentDestination environmentToken)

namespace Effect

def request? : Effect → Option Request
  | requested r => some r
  | _ => none

end Effect

namespace World

def requests (w : World) : List Request :=
  w.trace.filterMap Effect.request?

theorem mem_requests {w : World} {r : Request} : r ∈ w.requests ↔ .requested r ∈ w.trace := by
  unfold requests
  rw [List.mem_filterMap]
  constructor
  . rintro ⟨e, he, hr⟩
    cases e with
    | requested r' =>
      cases hr
      exact he
    | _ => cases hr
  . intro h
    exact ⟨_, h, rfl⟩

end World

/-! ### The token of the settings -/

namespace Config.Upload

def configuredToken? (u : Upload) : Option String :=
  u.gcs.bind (·.accessToken)

/-- The first token that is there, where an empty one counts as none. -/
def givenToken? (u : Upload) (env : Environment) : Option String :=
  u.configuredToken?.filter (· ≠ "") <|> environmentToken env

theorem environmentToken_ne_empty (env : Environment) : environmentToken env ≠ some "" := by
  intro h
  have := Option.filter_eq_some_iff.mp h
  simp at this

theorem token_options (u : Upload) (env : Environment)
    : (u.options env).token = (u.configuredToken? <|> environmentToken env) := by
  rfl

theorem token_options_eq_empty_iff {u : Upload} {env : Environment}
    : (u.options env).token = some "" ↔ u.configuredToken? = some "" := by
  rw [token_options]
  cases u.configuredToken? with
  | none => simp [environmentToken_ne_empty]
  | some t => simp

theorem token_options_eq_iff {u : Upload} {env : Environment}
    : (u.options env).token = u.givenToken? env ↔ u.configuredToken? ≠ some "" := by
  have hempty := environmentToken_ne_empty env
  unfold givenToken?
  rw [token_options]
  cases u.configuredToken? with
  | none => simp
  | some t =>
    rw [Option.filter_some]
    by_cases ht : t = ""
    . subst ht
      simpa using hempty.symm
    . simp [ht]

end Config.Upload

/-! ### The token of a request -/

namespace Storage

theorem Bucket.authorization_eq_empty_iff {b : Bucket} {object : String} {v : Value}
    : (b.request object v).authorization = some "Bearer " ↔ b.token = some "" := by
  unfold request
  dsimp only
  cases b.token with
  | none => simp
  | some t =>
    rw [Option.map_some, Option.some.injEq, Option.some.injEq, ← String.toList_inj]
    rw [String.toList_append, List.append_right_eq_self, String.toList_eq_nil_iff]

/-- The client goes on with the authorization of the request that was sent, or with none. -/
theorem Bucket.authorization_of_mem_requests {b : Bucket} {name : String} {v : Value}
    {network : Network} {r : Request} (h : r ∈ (b.upload name v network).requests)
    : r.authorization = (b.request (b.objectText name) v).authorization ∨
        r.authorization = none := by
  rcases requests_upload b name v network with hnone | hsent
  . rw [hnone] at h
    contradiction
  . rw [hsent] at h
    rcases List.mem_cons.mp h with rfl | hfollowed
    . exact .inl rfl
    . exact Network.authorization_of_mem_followed hfollowed

/-- Either options do not matter to a destination, or it stands for a bucket made with them. -/
theorem Backend.ofDestination_cases (destination : String)
    : (∃ made, (∀ options, ofDestination destination options = made) ∧
        ∀ b, made ≠ .ok (.bucket b)) ∨
      ∃ name folder, ∀ options, ofDestination destination options
        = (Bucket.make name folder options.endpoint options.token).map .bucket := by
  have hfailed : ∀ e b, (.error e : Except UploadError Backend) ≠ .ok (.bucket b) := by
    intro e b h
    cases h
  have hfiles : ∀ base b,
      (.ok (.filesystem base) : Except UploadError Backend) ≠ .ok (.bucket b) := by
    intro base b h
    cases h
  unfold ofDestination
  dsimp only
  split
  next => exact .inl ⟨_, fun _ => rfl, hfailed _⟩
  next =>
    split
    next =>
      split
      next => exact .inl ⟨_, fun _ => rfl, hfailed _⟩
      next =>
        split
        next =>
          split
          next => exact .inl ⟨_, fun _ => rfl, hfiles _⟩
          next => exact .inl ⟨_, fun _ => rfl, hfailed _⟩
        next =>
          split
          next => exact .inr ⟨_, _, fun _ => rfl⟩
          next => exact .inl ⟨_, fun _ => rfl, hfailed _⟩
    next => exact .inl ⟨_, fun _ => rfl, hfiles _⟩

theorem Backend.exists_make_of_ofDestination {destination : String} {options : Options} {b : Bucket}
    (h : ofDestination destination options = .ok (.bucket b))
    : ∃ name folder, Bucket.make name folder options.endpoint options.token = .ok b := by
  rcases ofDestination_cases destination with ⟨made, hmade, hother⟩ | ⟨name, folder, hmake⟩
  . exact absurd ((hmade options).symm.trans h) (hother b)
  . rw [hmake] at h
    refine ⟨name, folder, ?_⟩
    cases hb : Bucket.make name folder options.endpoint options.token with
    | error e =>
      rw [hb] at h
      cases h
    | ok made =>
      rw [hb] at h
      cases h
      rfl

theorem Backend.token_of_ofDestination {destination : String} {options : Options} {b : Bucket}
    (h : ofDestination destination options = .ok (.bucket b))
    : b.token = options.token := by
  obtain ⟨_, _, hmake⟩ := exists_make_of_ofDestination h
  exact (Bucket.make_eq_ok hmake).2.2.2

theorem Backend.endpoint_of_ofDestination {destination : String} {options : Options} {b : Bucket}
    (h : ofDestination destination options = .ok (.bucket b))
    : b.endpoint = options.endpoint.getD Bucket.defaultEndpoint := by
  obtain ⟨_, _, hmake⟩ := exists_make_of_ofDestination h
  exact (Bucket.make_eq_ok hmake).1

/-- Whether requests of a backend have an authorization without a token. -/
def Backend.HasEmptyToken : Backend → Prop
  | bucket b => b.token = some ""
  | _ => False

theorem Backend.hasEmptyToken_of_ofDestination {destination : String} {options : Options}
    {b : Backend} (h : ofDestination destination options = .ok b) (hempty : b.HasEmptyToken)
    : options.token = some "" := by
  cases b with
  | filesystem base => contradiction
  | bucket b => rw [← token_of_ofDestination h, hempty]
  | custom name id => contradiction

theorem Backend.hasEmptyToken_of_request {b : Backend} {w : World} {name : String} {v : Value}
    {r : Request} (h : .requested r ∈ b.sideEffects w name v)
    (hempty : r.authorization = some "Bearer ")
    : b.HasEmptyToken := by
  cases b with
  | filesystem base => simp [sideEffects] at h
  | bucket b =>
    have hrequest : r ∈ (b.upload name v w.network).requests := by
      simpa [sideEffects] using h
    rcases Bucket.authorization_of_mem_requests hrequest with hsame | hnone
    . exact Bucket.authorization_eq_empty_iff.mp (hsame ▸ hempty)
    . rw [hnone] at hempty
      contradiction
  | custom label id => simp [sideEffects] at h

theorem Handle.request_of_storeEffects {h : Handle} {w : World} {name : String} {v : Value}
    {r : Request} (hr : .requested r ∈ h.storeEffects w name v)
    : ∃ b, (h.lookup w).backend = some b ∧ .requested r ∈ b.sideEffects w name v := by
  unfold storeEffects at hr
  cases hb : (h.lookup w).backend with
  | none => simp [hb] at hr
  | some b =>
    refine ⟨b, rfl, ?_⟩
    rw [hb] at hr
    cases hanswer : b.answer w name v with
    | ok locator => simpa [hanswer] using hr
    | error e => simpa [hanswer] using hr

/-- What a cell is asked for is in it afterwards. -/
theorem Cell.get?_resolve (c : Cell) (destination : Option String) (options : Options)
    : (c.resolve destination options).cell.get? = (c.resolve destination options).backend := by
  cases c with
  | undecided =>
    cases destination with
    | none => rfl
    | some d =>
      unfold resolve
      dsimp only
      cases Backend.ofDestination d options with
      | ok b => rfl
      | error e => rfl
  | disabled => rfl
  | ready b => rfl

theorem Cell.backend_resolve {c : Cell} {destination : Option String} {options : Options}
    {b : Backend} (h : (c.resolve destination options).backend = some b)
    : c.get? = some b ∨ ∃ d, Backend.ofDestination d options = .ok b := by
  cases c with
  | undecided =>
    cases destination with
    | none => cases h
    | some d =>
      right
      unfold resolve at h
      dsimp only at h
      cases hd : Backend.ofDestination d options with
      | ok b' =>
        rw [hd] at h
        cases h
        exact ⟨d, hd⟩
      | error e =>
        rw [hd] at h
        cases h
  | disabled => cases h
  | ready b' => exact .inl h

theorem Cell.get?_set {c : Cell} {b b' : Backend} (h : (c.set b).2.get? = some b')
    : c.get? = some b' ∨ b = b' := by
  cases c with
  | undecided => exact .inr (Option.some.inj h)
  | disabled => exact .inl h
  | ready b => exact .inl h

end Storage

/-! ### The tokens of a run -/

namespace Process

/-- Whether a step gives the process a token that is empty. -/
def Step.GivesEmptyToken : Step → Prop
  | install u => u.configuredToken? = some ""
  | setBackend b => b.HasEmptyToken
  | _ => False

/-- A process in which no empty token is, and none has been sent since the start. -/
structure SendsNoEmptyToken (start w : World) : Prop where
  cell : ∀ b, w.cell.get? = some b → ¬b.HasEmptyToken
  requests : ∀ r ∈ w.requests, r.authorization = some "Bearer " → r ∈ start.requests

variable {start w : World}

theorem SendsNoEmptyToken.lookup (h : SendsNoEmptyToken start w) {b : Backend}
    (hb : (Handle.global.lookup w).backend = some b)
    : ¬b.HasEmptyToken := by
  rcases Cell.backend_resolve hb with hcell | ⟨d, hd⟩
  . exact h.cell b hcell
  . intro hempty
    exact Upload.environmentToken_ne_empty _ (Backend.hasEmptyToken_of_ofDestination hd hempty)

theorem requests_install (u : Upload) (w : World) : (u.install w).2.requests = w.requests := by
  unfold Upload.install
  split
  next => rfl
  next =>
    split
    next => rfl
    next =>
      dsimp only
      split
      next => rfl
      next => exact (List.filterMap_append).trans (List.append_nil _)

theorem SendsNoEmptyToken.perform (h : SendsNoEmptyToken start w) {s : Step}
    (hs : ¬s.GivesEmptyToken)
    : SendsNoEmptyToken start (s.perform w).2 := by
  cases s with
  | changeEnvironment env => exact ⟨h.cell, h.requests⟩
  | setBackend b =>
    refine ⟨?_, h.requests⟩
    intro b' hb'
    rcases Cell.get?_set hb' with hcell | rfl
    . exact h.cell b' hcell
    . exact hs
  | install u =>
    refine ⟨?_, by rw [Step.perform, requests_install]; exact h.requests⟩
    intro b' hb'
    cases hu : configured? u w.environment with
    | none =>
      obtain ⟨outcome, hinstall, -⟩ := install_of_none hu
      rw [Step.perform, hinstall] at hb'
      exact h.cell b' hb'
    | some b =>
      rw [Step.perform, (install_of_some hu).2] at hb'
      rcases Cell.get?_set hb' with hcell | rfl
      . exact h.cell b' hcell
      . intro hempty
        obtain ⟨basePath, -, hb⟩ := Option.bind_eq_some_iff.mp hu
        rw [Except.toOption_eq_some_iff] at hb
        apply hs
        exact Upload.token_options_eq_empty_iff.mp
          (Backend.hasEmptyToken_of_ofDestination hb hempty)
  | store name v =>
    rw [store_eq]
    constructor
    . intro b hb
      exact h.lookup ((Cell.get?_resolve _ _ _).symm.trans hb)
    . intro r hr hempty
      rcases List.mem_append.mp (World.mem_requests.mp hr) with hr | hr
      . exact h.requests r (World.mem_requests.mpr hr) hempty
      . obtain ⟨b, hb, hr⟩ := Handle.request_of_storeEffects hr
        exact absurd (Backend.hasEmptyToken_of_request hr hempty) (h.lookup hb)

theorem sendsNoEmptyToken_worldAt {run : List Step} (hstart : start.cell = .undecided)
    (hrun : ∀ s ∈ run, ¬s.GivesEmptyToken) (i : Nat)
    : SendsNoEmptyToken start (worldAt run start i) := by
  induction i with
  | zero =>
    refine ⟨?_, fun r hr _ => hr⟩
    intro b hb
    rw [worldAt, List.take_zero, List.foldl_nil, hstart] at hb
    cases hb
  | succ i ih =>
    cases hs : run[i]? with
    | none =>
      rw [worldAt_succ_of_none hs]
      exact ih
    | some s =>
      rw [worldAt_succ hs]
      exact ih.perform (hrun s (List.mem_of_getElem? hs))

/--
Settings give the token that is to be given unless they have an empty one of their own, which then
is sent with every request; in a run that neither settings nor the program give an empty token, none
is sent.
-/
theorem empty_token_is_sent_iff (u : Upload) (env : Environment)
    : ((u.options env).token = u.givenToken? env ↔ u.configuredToken? ≠ some "") ∧
      (∀ destination b,
        Backend.ofDestination destination (u.options env) = .ok (.bucket b) →
          ∀ name v network r, (b.upload name v network).sent = some r →
            (r.authorization = some "Bearer " ↔ u.configuredToken? = some "")) ∧
      ∀ run start, start.cell = .undecided → (∀ s ∈ run, ¬Step.GivesEmptyToken s) →
        ∀ i, ∀ r ∈ (worldAt run start i).requests,
          r.authorization = some "Bearer " → r ∈ start.requests := by
  refine ⟨Upload.token_options_eq_iff, ?_, ?_⟩
  . intro destination b hb name v network r hr
    rw [Bucket.sent_eq hr, Bucket.authorization_eq_empty_iff, Backend.token_of_ofDestination hb]
    exact Upload.token_options_eq_empty_iff
  . intro run start hstart hrun i
    exact (sendsNoEmptyToken_worldAt hstart hrun i).requests

/-- An empty token of the environment beside none in the settings. -/
theorem empty_token_is_sent_iff_of_environment
    : let u : Upload := { basePath := some "gs://b" }
      let env : Environment := [(Storage.tokenVariable, "")]
      (u.options env).token = u.givenToken? env ∧
      ∀ i, ∀ r ∈ (worldAt [.changeEnvironment env, .install u, .store "r.json" .null]
          World.blank i).requests,
        r.authorization ≠ some "Bearer " := by
  intro u env
  obtain ⟨htoken, -, hrun⟩ := empty_token_is_sent_iff u env
  have hnone : u.configuredToken? ≠ some "" := by decide
  refine ⟨htoken.mpr hnone, ?_⟩
  intro i r hr hempty
  have hsteps : ∀ s ∈ [Step.changeEnvironment env, .install u, .store "r.json" .null],
      ¬s.GivesEmptyToken := by
    intro s hs hgives
    simp only [List.mem_cons, List.not_mem_nil, or_false] at hs
    rcases hs with rfl | rfl | rfl
    . exact hgives
    . exact hnone hgives
    . exact hgives
  have hstart := hrun _ World.blank rfl hsteps i r hr hempty
  cases hstart

/-- A default that is empty takes the place of the token of the environment. -/
theorem empty_default_is_sent
    : let env : Environment := [(Storage.tokenVariable, "token")]
      let text :=
        "[upload.gcs]\naccess_token = \"\x7b\x7b env.PW_TOKEN | default(\"\") \x7d\x7d\"\n"
      ∃ s, Config.ofText env text = .ok s ∧ (s.upload.options env).token = some "" ∧
        s.upload.givenToken? env = some "token" ∧
        ∃ b, Backend.ofDestination "gs://b" (s.upload.options env) = .ok (.bucket b) ∧
          (b.upload "r.json" .null .silent).sent.map (·.authorization)
            = some (some "Bearer ") := by
  intro env text
  let s : Config.Settings := { upload := { gcs := some { accessToken := some "" } } }
  refine ⟨s, ?_, rfl, by decide, ⟨Bucket.defaultEndpoint, "b", "", some ""⟩, ?_, rfl⟩
  . apply Except.toOption_eq_some_iff.mp
    decide +kernel
  . apply Except.toOption_eq_some_iff.mp
    decide +kernel

end Process
end ChatTelemetry
