import ChatTelemetry.Proofs.Authorization

/-!
This module shows that the token of a bucket reaches nothing but the authorization of its requests.
With one token or another, uploads come to the same, log the same and ask for the same.
-/

namespace ChatTelemetry

namespace Url

/-- A locator that does not say who asks for it. -/
def IsAnonymous (u : Url) : Prop :=
  ∀ a ∈ u.authority, a.username = [] ∧ a.password = []

instance (u : Url) : Decidable u.IsAnonymous :=
  inferInstanceAs (Decidable (∀ a ∈ u.authority, _))

end Url

namespace World

def logs (w : World) : List Log.Event :=
  w.trace.filterMap Effect.log?

end World

namespace Storage

open Json (Value)

def Bucket.withToken (token : Option String) (b : Bucket) : Bucket :=
  { b with token }

def Backend.withToken (token : Option String) : Backend → Backend
  | bucket b => bucket (b.withToken token)
  | b => b

def Bucket.Outcome.withToken (token : String) (o : Outcome) : Outcome :=
  { o with sent := o.sent.map (·.withToken token), followed := o.followed.map (·.withToken token) }

/-- A value to store under a name, and what is reached meanwhile, whoever it is that asks. -/
structure Exchange where
  name : String
  value : Value
  network : Network
  ignoresAuthorization : network.IgnoresAuthorization

def Exchange.outcome (x : Exchange) (b : Bucket) : Bucket.Outcome :=
  b.upload x.name x.value x.network

/-- Stores values one after another and says where they went. -/
def Handle.storeAll (h : Handle) : List Exchange → World → List String × World
  | [], w => ([], w)
  | x :: rest, w =>
    let (locator, w) :=
      h.store Emission.Call.perform x.name x.value { w with network := x.network }
    let (locators, w) := h.storeAll rest w
    (locator :: locators, w)

/-! ### What is built with a token -/

theorem Bucket.make_eq_map_withToken (name folder : String) (endpoint : Option Url)
    (token : Option String)
    : make name folder endpoint token = (make name folder endpoint none).map (withToken token) := by
  unfold make
  split
  next => rfl
  next =>
    dsimp only
    split <;> rfl

/-- A token does not decide what a destination comes to; it is only put into a bucket. -/
theorem Backend.ofDestination_eq_map_withToken (destination : String) (endpoint : Option Url)
    (token : Option String)
    : ofDestination destination ⟨endpoint, token⟩
        =
      (ofDestination destination ⟨endpoint, none⟩).map (withToken token) := by
  rcases ofDestination_cases destination with ⟨made, hmade, hother⟩ | ⟨name, folder, hmake⟩
  . rw [hmade, hmade]
    cases made with
    | error e => rfl
    | ok b =>
      cases b with
      | bucket b => exact absurd rfl (hother b)
      | filesystem base => rfl
      | custom name id => rfl
  . rw [hmake, hmake]
    dsimp only
    rw [Bucket.make_eq_map_withToken]
    cases Bucket.make name folder endpoint none <;> rfl

/-! ### What is done with a token -/

namespace Bucket

theorem isAnonymous_uploadUrl {b : Bucket} (h : b.endpoint.IsAnonymous) (object : String)
    : (b.uploadUrl object).IsAnonymous := by
  unfold Url.IsAnonymous uploadUrl
  dsimp only
  rw [Url.authority_addSegments]
  exact h

@[simp]
theorem objectText_withToken (b : Bucket) (token : Option String) (name : String)
    : (b.withToken token).objectText name = b.objectText name := by
  rfl

theorem request_withToken (b : Bucket) (token object : String) (v : Value)
    : (b.withToken (some token)).request object v
        =
      ((b.withToken (some "")).request object v).withToken token := by
  rfl

@[simp]
theorem Outcome.requests_withToken (o : Outcome) (token : String)
    : (o.withToken token).requests = o.requests.map (·.withToken token) := by
  simp [requests, withToken, Option.toList_map]

end Bucket

/-- With a token that can be sent, an upload differs from one with an empty token in who asks. -/
theorem Exchange.outcome_withToken (x : Exchange) (b : Bucket) {token : String}
    (h : Bucket.isHeaderText token = true)
    : x.outcome (b.withToken (some token))
        =
      (x.outcome (b.withToken (some ""))).withToken token := by
  have hheader : ((b.withToken (some token)).token.map Bucket.isHeaderText).getD true = true := h
  have hempty : ((b.withToken (some "")).token.map Bucket.isHeaderText).getD true = true := rfl
  unfold outcome Bucket.upload
  cases isObjectName x.name with
  | false => rfl
  | true =>
    simp only [hheader, hempty, ↓reduceIte, Bucket.objectText_withToken]
    rw [Bucket.request_withToken, Network.send_withToken x.ignoresAuthorization]
    let request := (b.withToken (some "")).request (b.objectText x.name) x.value
    cases (x.network.send request).answer with
    | error reason => rfl
    | ok response =>
      dsimp only
      split <;> rfl

namespace Handle

/-- What a handle stands for in a process where that has been settled. -/
def Finds (h : Handle) (w : World) (b : Backend) : Prop :=
  h.lookup w = ⟨w.cell, some b, false, false, []⟩

theorem finds_injected (b : Backend) (w : World) : (injected b).Finds w b := by
  rfl

theorem finds_global (b : Backend) (w : World) : global.Finds { w with cell := .ready b } b := by
  rfl

theorem Finds.with_network_trace {h : Handle} {w : World} {b : Backend} (hfinds : h.Finds w b)
    (network : Network) (trace : List Effect)
    : h.Finds { w with network, trace } b := by
  cases h <;> exact hfinds

theorem Finds.lookup_with_network {h : Handle} {w : World} {b : Backend} (hfinds : h.Finds w b)
    (network : Network)
    : h.lookup { w with network } = ⟨w.cell, some b, false, false, []⟩ := by
  exact hfinds.with_network_trace network w.trace

end Handle

namespace Exchange

def locator (x : Exchange) (b : Bucket) : String :=
  locatorOf (some (x.outcome b).result)

/-- What is logged when a value is stored in a bucket. -/
def log (x : Exchange) (b : Bucket) : List Log.Event :=
  (x.outcome b).log ++
    match (x.outcome b).result with
    | .ok _ => []
    | .error e =>
      [⟨.warn, logTarget, "failed to upload content",
        [("error", .shown e.message), ("backend", .quoted "gcs"), ("filename", .quoted x.name)]⟩]

def effects (x : Exchange) (b : Bucket) : List Effect :=
  .uploadStarted (.bucket b) x.name x.value true ::
    ((x.outcome b).requests.map .requested ++ (x.log b).map .logged)

@[simp]
theorem filterMap_log?_effects (x : Exchange) (b : Bucket)
    : (x.effects b).filterMap Effect.log? = x.log b := by
  have hlogged : Effect.log? ∘ Effect.logged = some := rfl
  have hrequested : Effect.log? ∘ Effect.requested = fun _ => none := rfl
  simp [effects, List.filterMap_cons, Effect.log?, hlogged, hrequested]

@[simp]
theorem filterMap_request?_effects (x : Exchange) (b : Bucket)
    : (x.effects b).filterMap Effect.request? = (x.outcome b).requests := by
  have hlogged : Effect.request? ∘ Effect.logged = fun _ => none := rfl
  have hrequested : Effect.request? ∘ Effect.requested = some := rfl
  simp [effects, List.filterMap_cons, Effect.request?, hlogged, hrequested]

/-! ### Runs -/

section Store

variable {h : Handle} {w : World} {b : Bucket}

theorem storeEffects_eq (hfinds : h.Finds w (.bucket b)) (x : Exchange)
    : h.storeEffects { w with network := x.network } x.name x.value = x.effects b := by
  have hanswer : (Backend.bucket b).answer { w with network := x.network } x.name x.value
      = (x.outcome b).result := rfl
  unfold Handle.storeEffects effects log
  rw [hfinds.lookup_with_network]
  dsimp only
  rw [hanswer]
  cases (x.outcome b).result with
  | ok locator => simp [Backend.sideEffects, outcome]
  | error e => simp [Backend.sideEffects, outcome, Backend.name]

theorem store_eq (hfinds : h.Finds w (.bucket b)) (x : Exchange)
    : h.store Emission.Call.perform x.name x.value { w with network := x.network }
        =
      (x.locator b, { w with network := x.network, trace := w.trace ++ x.effects b }) := by
  rw [Handle.store_eq Emission.Call.perform_of_suppressed, storeEffects_eq hfinds]
  unfold Handle.answer Handle.filesAfter
  rw [hfinds.lookup_with_network]
  rfl

/-- What a run comes to depends on the bucket alone, not on the process. -/
theorem storeAll_eq (hfinds : h.Finds w (.bucket b)) (xs : List Exchange)
    : (h.storeAll xs w).1 = xs.map (·.locator b) ∧
        (h.storeAll xs w).2.trace = w.trace ++ xs.flatMap (·.effects b) := by
  induction xs generalizing w with
  | nil => exact ⟨rfl, (List.append_nil _).symm⟩
  | cons x rest ih =>
    obtain ⟨hlocators, htrace⟩ := ih (hfinds.with_network_trace x.network (w.trace ++ x.effects b))
    rw [Handle.storeAll, store_eq hfinds]
    dsimp only
    rw [hlocators, htrace, List.map_cons, List.flatMap_cons, List.append_assoc]
    exact ⟨rfl, rfl⟩

end Store

section Token

variable {token : String} (htoken : Bucket.isHeaderText token = true)

include htoken

theorem locator_withToken (x : Exchange) (b : Bucket)
    : x.locator (b.withToken (some token)) = x.locator (b.withToken (some "")) := by
  unfold locator
  rw [outcome_withToken x b htoken]
  rfl

theorem log_withToken (x : Exchange) (b : Bucket)
    : x.log (b.withToken (some token)) = x.log (b.withToken (some "")) := by
  unfold log
  rw [outcome_withToken x b htoken]
  rfl

/-- A run with a token is the run with an empty one, but for who asks. -/
theorem storeAll_withToken {h : Handle} {w : World} {b : Bucket}
    (hfinds : h.Finds w (.bucket (b.withToken (some token)))) (xs : List Exchange)
    : (h.storeAll xs w).1 = xs.map (·.locator (b.withToken (some ""))) ∧
        (h.storeAll xs w).2.logs = w.logs ++ xs.flatMap (·.log (b.withToken (some ""))) ∧
        (h.storeAll xs w).2.requests
          = w.requests ++
              (xs.flatMap fun x => (x.outcome (b.withToken (some ""))).requests).map
                (·.withToken token) := by
  obtain ⟨hlocators, htrace⟩ := storeAll_eq hfinds xs
  refine ⟨?_, ?_, ?_⟩
  . rw [hlocators]
    exact List.map_congr_left fun x _ => locator_withToken htoken x b
  . unfold World.logs
    rw [htrace, List.filterMap_append, List.filterMap_flatMap]
    simp only [filterMap_log?_effects, log_withToken htoken]
  . unfold World.requests
    rw [htrace, List.filterMap_append, List.filterMap_flatMap, List.map_flatMap]
    simp only [filterMap_request?_effects, outcome_withToken _ b htoken,
      Bucket.Outcome.requests_withToken]

end Token

/-- What is asked for to store a value, be it with this token or with that. -/
inductive Asks (x : Exchange) : List Request → Prop
  | nothing (hname : isObjectName x.name = false) : x.Asks []
  /-- The request that is sent is authorized, but its locator does not say who asks. -/
  | object (hname : isObjectName x.name = true) (r : Request)
    (hauthorization : r.authorization.isSome) (hurl : r.url.IsAnonymous)
    (hbody : r.body = some x.value.text)
    : x.Asks (r :: (x.network.send r).followed)

theorem asks_outcome (x : Exchange) {b : Bucket} (hb : b.endpoint.IsAnonymous)
    : x.Asks (x.outcome (b.withToken (some ""))).requests := by
  cases hname : isObjectName x.name with
  | false =>
    rw [outcome, Bucket.upload_of_not_isObjectName _ hname]
    exact .nothing hname
  | true =>
    have htoken : ∀ t ∈ (b.withToken (some "")).token, Bucket.isHeaderText t = true := by
      intro t ht
      obtain rfl := Option.some.inj ht
      rfl
    obtain ⟨hsent, hfollowed, -⟩ :=
      Bucket.upload_of_isObjectName (b.withToken (some "")) hname htoken x.value x.network
    rw [Bucket.Outcome.requests, outcome, hsent, hfollowed]
    exact .object hname _ rfl (Bucket.isAnonymous_uploadUrl hb _) rfl

end Exchange

/-! ### Two tokens -/

/-- Two runs that only the authorization of their requests tells apart. -/
structure DifferInAuthorization (t u : String) (xs : List Exchange) (before : List Request)
    (run run' : List String × World)
    : Prop where
  locators : run.1 = run'.1
  logs : run.2.logs = run'.2.logs
  requests : ∃ asked : Exchange → List Request, (∀ x ∈ xs, x.Asks (asked x)) ∧
    run.2.requests = before ++ (xs.flatMap asked).map (·.withToken t) ∧
    run'.2.requests = before ++ (xs.flatMap asked).map (·.withToken u)

/-- Two buckets that only the authorization of their requests tells apart. -/
structure Bucket.DifferInToken (t u : String) (b c : Bucket) : Prop where
  debugText : b.debugText = c.debugText
  handleText : (Handle.injected (.bucket b)).debugText = (Handle.injected (.bucket c)).debugText
  result : ∀ x : Exchange, (x.outcome b).result = (x.outcome c).result
  /-- Runs through a handle for the bucket alone. -/
  injected : ∀ xs (w : World), DifferInAuthorization t u xs w.requests
    ((Handle.injected (.bucket b)).storeAll xs w) ((Handle.injected (.bucket c)).storeAll xs w)
  /-- Runs in a process whose backend the bucket is. -/
  global : ∀ xs (w : World), DifferInAuthorization t u xs w.requests
    (Handle.global.storeAll xs { w with cell := .ready (.bucket b) })
    (Handle.global.storeAll xs { w with cell := .ready (.bucket c) })

/-- What a destination comes to with two tokens: the same, unless it is a bucket that has them. -/
inductive BuiltAlike (t u : String)
    : Except UploadError Backend → Except UploadError Backend → Prop
  | failed (e : UploadError) : BuiltAlike t u (.error e) (.error e)
  | bucket {b c : Bucket} (h : b.DifferInToken t u c)
    : BuiltAlike t u (.ok (.bucket b)) (.ok (.bucket c))
  | other {b : Backend} (h : ∀ c, b ≠ .bucket c) : BuiltAlike t u (.ok b) (.ok b)

theorem BuiltAlike.of_bucket {t u : String} {b c : Bucket}
    (h : BuiltAlike t u (.ok (.bucket b)) (.ok (.bucket c)))
    : b.DifferInToken t u c := by
  cases h with
  | bucket h => exact h
  | other h => exact absurd rfl (h _)

section Tokens

variable {t u : String} (ht : Bucket.isHeaderText t = true) (hu : Bucket.isHeaderText u = true)

include ht hu

theorem differInAuthorization_storeAll {b : Bucket} (hb : b.endpoint.IsAnonymous) {h h' : Handle}
    {w w' : World} (hfinds : h.Finds w (.bucket (b.withToken (some t))))
    (hfinds' : h'.Finds w' (.bucket (b.withToken (some u)))) (hw : w.trace = w'.trace)
    (xs : List Exchange)
    : DifferInAuthorization t u xs w.requests (h.storeAll xs w) (h'.storeAll xs w') := by
  obtain ⟨hlocators, hlogs, hrequests⟩ := Exchange.storeAll_withToken ht hfinds xs
  obtain ⟨hlocators', hlogs', hrequests'⟩ := Exchange.storeAll_withToken hu hfinds' xs
  have hbefore : w.logs = w'.logs ∧ w.requests = w'.requests := by
    unfold World.logs World.requests
    rw [hw]
    exact ⟨rfl, rfl⟩
  rw [← hbefore.1] at hlogs'
  rw [← hbefore.2] at hrequests'
  exact ⟨hlocators.trans hlocators'.symm, hlogs.trans hlogs'.symm, _,
    fun x _ => x.asks_outcome hb, hrequests, hrequests'⟩

theorem Bucket.differInToken_withToken {b : Bucket} (hb : b.endpoint.IsAnonymous)
    : (b.withToken (some t)).DifferInToken t u (b.withToken (some u)) where
  debugText := rfl
  handleText := rfl
  result x := by
    rw [x.outcome_withToken b ht, x.outcome_withToken b hu]
    rfl
  injected xs w :=
    differInAuthorization_storeAll ht hu hb (Handle.finds_injected _ w)
      (Handle.finds_injected _ w) rfl xs
  global xs w :=
    differInAuthorization_storeAll ht hu hb (Handle.finds_global _ w) (Handle.finds_global _ w)
      rfl xs

end Tokens

/--
Whatever destination and endpoint it is given for, a token decides nothing but the authorization of
requests: neither what the destination comes to nor, in any run, the locators, the log, the errors
or what is asked for, nor how the bucket and its handle look in diagnostics.
-/
theorem token_reaches_authorization_alone (destination : String) {endpoint : Option Url}
    (hendpoint : ∀ url ∈ endpoint, url.IsAnonymous) {t u : String}
    (ht : Bucket.isHeaderText t = true) (hu : Bucket.isHeaderText u = true)
    : BuiltAlike t u (Backend.ofDestination destination ⟨endpoint, some t⟩)
        (Backend.ofDestination destination ⟨endpoint, some u⟩) := by
  rw [Backend.ofDestination_eq_map_withToken _ _ (some t)]
  rw [Backend.ofDestination_eq_map_withToken _ _ (some u)]
  cases hmade : Backend.ofDestination destination ⟨endpoint, none⟩ with
  | error e => exact .failed e
  | ok b =>
    cases b with
    | bucket b =>
      apply BuiltAlike.bucket
      apply Bucket.differInToken_withToken ht hu
      rw [Backend.endpoint_of_ofDestination hmade]
      cases endpoint with
      | none => decide
      | some url => exact hendpoint url rfl
    | filesystem base => exact .other fun _ h => Backend.noConfusion h
    | custom name id => exact .other fun _ h => Backend.noConfusion h

/-- A value that is answered with this status, and where the answer sends the client, with 200. -/
def Exchange.answered (name : String) (status : Nat) (location : Option Url) : Exchange where
  name := name
  value := .null
  network := {
    answer := fun r =>
      .ok (if location = some r.url then ⟨200, "", none⟩ else ⟨status, "", location⟩) }
  ignoresAuthorization := by
    intro r r' hurl _
    dsimp only
    rw [hurl]

/--
Between two uploads that the service is asked for stands one that it is not. The last is sent on to
another host, which is asked without the token.
-/
theorem token_reaches_authorization_alone_past_a_refusal
    : let service (host : String) : Url :=
        { scheme := "http".toList
          authority := some { host := some (.domain host.toList) }
          path := ['/'] }
      let made (token : String) :=
        Backend.ofDestination "gs://traces/genai" ⟨some (service "localhost"), some token⟩
      let bucket (token : String) : Bucket := ⟨service "localhost", "traces", "genai", some token⟩
      let run (token : String) :=
        (Handle.injected (.bucket (bucket token))).storeAll
          [ .answered "r_input.json" 403 none,
            .answered "../r.json" 200 none,
            .answered "r_output.json" 307 (some (service "elsewhere")) ]
          .blank
      made "one" = .ok (.bucket (bucket "one")) ∧
      made "two" = .ok (.bucket (bucket "two")) ∧
      (bucket "one").debugText = (bucket "two").debugText ∧
      (run "one").1 = (run "two").1 ∧
      (run "one").2.logs = (run "two").2.logs ∧
      (run "one").2.requests.map (·.authorization) = [some "Bearer one", some "Bearer one", none] ∧
      ∃ asked : List Request, asked.length = 3 ∧
        (run "one").2.requests = asked.map (·.withToken "one") ∧
        (run "two").2.requests = asked.map (·.withToken "two") := by
  intro service made bucket run
  have hone : made "one" = .ok (.bucket (bucket "one")) := by
    apply Except.toOption_eq_some_iff.mp
    decide +kernel
  have htwo : made "two" = .ok (.bucket (bucket "two")) := by
    apply Except.toOption_eq_some_iff.mp
    decide +kernel
  have h : BuiltAlike "one" "two" (made "one") (made "two") :=
    token_reaches_authorization_alone "gs://traces/genai" (by decide) (by decide) (by decide)
  rw [hone, htwo] at h
  obtain ⟨hlocators, hlogs, asked, -, hrequests, hrequests'⟩ := h.of_bucket.injected _ World.blank
  have hsent : (run "one").2.requests.map (·.authorization)
      = [some "Bearer one", some "Bearer one", none] := by
    decide +kernel
  refine ⟨hone, htwo, h.of_bucket.debugText, hlocators, hlogs, hsent, _, ?_, hrequests, hrequests'⟩
  have hlength := congrArg List.length hsent
  rw [hrequests] at hlength
  simpa [World.requests, World.blank] using hlength

end Storage
end ChatTelemetry
