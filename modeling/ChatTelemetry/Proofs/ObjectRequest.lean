import ChatTelemetry.Proofs.AddedSegments
import ChatTelemetry.Proofs.FormQuery
import ChatTelemetry.Proofs.Locator
import ChatTelemetry.Proofs.Transfer
import ChatTelemetry.Storage.Bucket

/-!
This module shows that an object is kept under the name that its locator gives, and what comes of
the one request that is sent for it.
-/

namespace ChatTelemetry

namespace Storage.Bucket

open Json (Value)

/-! ### The text of an object -/

/-- A folder without the slashes around it. -/
structure IsBare (folder bare : String) : Prop where
  slashes : ∃ m n, folder.toList = List.replicate m '/' ++ bare.toList ++ List.replicate n '/'
  first : bare.toList.head? ≠ some '/'
  last : bare.toList.getLast? ≠ some '/'

theorem isBare_strip (folder : String)
    : IsBare folder (.ofList (Text.strip (· == '/') folder.toList)) := by
  have hslash : ∀ {cs : List Char}, (∀ c ∈ cs, (c == '/') = true) →
      cs = List.replicate cs.length '/' := by
    intro cs h
    exact List.eq_replicate_of_mem fun c hc => beq_iff_eq.mp (h c hc)
  constructor
  . obtain ⟨before, after, hfolder, hbefore, hafter⟩ := Text.exists_strip (· == '/') folder.toList
    refine ⟨before.length, after.length, ?_⟩
    rw [String.toList_ofList, ← hslash hbefore, ← hslash hafter]
    exact hfolder
  . rw [String.toList_ofList]
    intro h
    exact absurd (Text.not_of_mem_head?_strip h) (by decide)
  . rw [String.toList_ofList]
    intro h
    exact absurd (Text.not_of_mem_getLast?_strip h) (by decide)

/-! ### The request for an object -/

/-- A request to keep a value as an object of a service. -/
structure Asks (endpoint : Url) (object : String) (v : Value) (request : Request) : Prop where
  query : ∃ x, request.url.query = some ("uploadType=media&name=".toList ++ x) ∧
    (∀ c ∈ x, c ∉ "&=#".toList) ∧ Text.ofUtf8? (Url.formDecode x) = some object.toList
  path : Url.withoutTrailingSlash endpoint.path <+: request.url.path
  body : request.body = some v.text

theorem asks_request (b : Bucket) (object : String) (v : Value)
    (hkind : Url.SchemeKind.ofScheme b.endpoint.scheme = .web)
    : Asks b.endpoint object v (b.request object v) := by
  constructor
  . refine ⟨Url.formEncode object.toList, rfl, ?_, Url.ofUtf8?_formDecode_formEncode _⟩
    exact fun c => Url.not_mark_of_mem_formEncode
  . have hbefore : ∀ s ∈ ["upload", "storage", "v1"].map String.toList, Url.IsPlain s := by decide
    have hlast : Url.IsPlain "b".toList := by decide
    have hafter : ∀ s ∈ ["o".toList], Url.IsPlain s := by decide
    exact Url.prefix_addSegments hkind hbefore hlast hafter b.name.toList
  . rfl

theorem make_eq_ok {bucket folder : String} {endpoint : Option Url} {token : Option String}
    {b : Bucket} (h : make bucket folder endpoint token = .ok b)
    : b.endpoint = endpoint.getD defaultEndpoint ∧ b.name = bucket ∧ IsBare folder b.folder ∧
        b.token = token := by
  unfold make at h
  split at h
  next => contradiction
  next =>
    dsimp only at h
    split at h
    next =>
      obtain rfl := Except.ok.inj h
      exact ⟨rfl, rfl, isBare_strip folder, rfl⟩
    next => contradiction

theorem upload_of_not_isObjectName (b : Bucket) {name : String} (hname : isObjectName name = false)
    (v : Value) (network : Network)
    : b.upload name v network = ⟨none, [], .error (.invalidName name), []⟩ := by
  unfold upload
  rw [hname]
  rfl

theorem upload_of_isObjectName (b : Bucket) {name : String} (hname : isObjectName name = true)
    (htoken : ∀ t ∈ b.token, isHeaderText t = true) (v : Value) (network : Network)
    : let request := b.request (b.objectText name) v
      (b.upload name v network).sent = some request ∧
        (b.upload name v network).followed = (network.send request).followed ∧
        (b.upload name v network).result
          =
        match (network.send request).answer with
        | .error reason => .error (.transport reason)
        | .ok answer =>
          if 200 ≤ answer.status ∧ answer.status < 300 then .ok (b.locator (b.objectText name))
          else .error (.status answer.status answer.body) := by
  have hheader : (b.token.map isHeaderText).getD true = true := by
    cases hb : b.token with
    | none => rfl
    | some t => exact htoken t hb
  intro request
  unfold upload
  rw [if_pos hname, if_pos hheader]
  dsimp only
  cases (network.send request).answer with
  | error reason => exact ⟨rfl, rfl, rfl⟩
  | ok answer =>
    simp only [Bool.and_eq_true, decide_eq_true_eq]
    split
    next => exact ⟨rfl, rfl, rfl⟩
    next => exact ⟨rfl, rfl, rfl⟩

/-- An answer that does not send the client on is the last one. -/
theorem upload_of_answer (b : Bucket) {name : String} (hname : isObjectName name = true)
    (htoken : ∀ t ∈ b.token, isHeaderText t = true) (v : Value) {network : Network}
    {answer : Response} (hanswer : network.answer (b.request (b.objectText name) v) = .ok answer)
    (htarget : answer.target? = none)
    : (b.upload name v network).followed = [] ∧
        (b.upload name v network).result
          =
        if 200 ≤ answer.status ∧ answer.status < 300 then .ok (b.locator (b.objectText name))
        else .error (.status answer.status answer.body) := by
  obtain ⟨-, hfollowed, hresult⟩ := upload_of_isObjectName b hname htoken v network
  rw [Network.send_of_answer hanswer htarget] at hfollowed hresult
  exact ⟨hfollowed, hresult⟩

theorem upload_eq_ok {b : Bucket} {name locator : String} {v : Value} {network : Network}
    (h : (b.upload name v network).result = .ok locator)
    : (∀ t ∈ b.token, isHeaderText t = true) ∧ locator = b.locator (b.objectText name) ∧
        (b.upload name v network).sent = some (b.request (b.objectText name) v) := by
  have hsendable : isObjectName name = true ∧ (b.token.map isHeaderText).getD true = true := by
    unfold upload at h
    split at h
    next hname =>
      split at h
      next htoken => exact ⟨hname, htoken⟩
      next => contradiction
    next => contradiction
  obtain ⟨hname, hheader⟩ := hsendable
  have htoken : ∀ t ∈ b.token, isHeaderText t = true := by
    intro t ht
    rw [Option.mem_def.mp ht] at hheader
    exact hheader
  obtain ⟨hsent, -, hresult⟩ := upload_of_isObjectName b hname htoken v network
  refine ⟨htoken, ?_, hsent⟩
  rw [hresult] at h
  split at h
  next => contradiction
  next =>
    split at h
    next => exact (Except.ok.inj h).symm
    next => contradiction

/-- What is sent is the request for the object, and the client goes on from there. -/
theorem requests_upload (b : Bucket) (name : String) (v : Value) (network : Network)
    : (b.upload name v network).requests = [] ∨
        (b.upload name v network).requests
          =
        b.request (b.objectText name) v ::
          (network.send (b.request (b.objectText name) v)).followed := by
  unfold upload
  dsimp only
  repeat' split
  all_goals simp [Outcome.requests]

theorem sent_eq {b : Bucket} {name : String} {v : Value} {network : Network} {r : Request}
    (h : (b.upload name v network).sent = some r)
    : r = b.request (b.objectText name) v := by
  unfold upload at h
  dsimp only at h
  repeat' split at h
  all_goals cases h
  all_goals rfl

/--
The object that a request is sent for is the one that the locator names, whatever the service
answers, unless it sends the client elsewhere.
-/
theorem request_names_what_the_locator_names {bucket folder : String} {endpoint : Option Url}
    {token : Option String} {b : Bucket} (hmake : make bucket folder endpoint token = .ok b)
    (hscheme : (endpoint.getD defaultEndpoint).scheme ∈ ["http".toList, "https".toList])
    (htoken : ∀ t ∈ token, isHeaderText t = true) (name : String) (v : Value)
    : (isObjectName name = false →
        ∀ network, b.upload name v network = ⟨none, [], .error (.invalidName name), []⟩) ∧
      (isObjectName name = true →
        ∃ bare object request, IsBare folder bare ∧
          object = (if bare = "" then name else bare ++ "/" ++ name) ∧
          Asks (endpoint.getD defaultEndpoint) object v request ∧
          ∀ network, (b.upload name v network).sent = some request ∧
            ∀ answer, network.answer request = .ok answer → answer.target? = none →
              (b.upload name v network).followed = [] ∧
              (b.upload name v network).result
                =
              if 200 ≤ answer.status ∧ answer.status < 300 then
                .ok ("gs://" ++ bucket ++ "/" ++ object)
              else .error (.status answer.status answer.body)) := by
  obtain ⟨hendpoint, rfl, hbare, rfl⟩ := make_eq_ok hmake
  rw [← hendpoint] at hscheme ⊢
  constructor
  . intro hname network
    exact upload_of_not_isObjectName b hname v network
  . intro hname
    have hkind : ∀ scheme ∈ ["http".toList, "https".toList],
        Url.SchemeKind.ofScheme scheme = .web := by
      decide
    refine ⟨b.folder, b.objectText name, _, hbare, rfl,
      asks_request b (b.objectText name) v (hkind _ hscheme), ?_⟩
    intro network
    refine ⟨(upload_of_isObjectName b hname htoken v network).1, ?_⟩
    intro answer hanswer htarget
    exact upload_of_answer b hname htoken v hanswer htarget

theorem request_names_what_the_locator_names_of_a_blank_and_a_plus
    : ∃ b, make "traces" "/genai/" none (some "token") = .ok b ∧
        ∃ object request, Asks defaultEndpoint object .null request ∧
          ∀ network, network.answer request = .ok ⟨200, "", none⟩ →
            (b.upload "a b+c.json" .null network).requests = [request] ∧
              (b.upload "a b+c.json" .null network).result = .ok ("gs://traces/" ++ object) := by
  have hmake : make "traces" "/genai/" none (some "token") =
      .ok ⟨defaultEndpoint, "traces", "genai", some "token"⟩ := by
    decide
  have hname : isObjectName "a b+c.json" = true := by decide
  obtain ⟨_, object, request, -, -, hasks, hsent⟩ :=
    (request_names_what_the_locator_names hmake (by decide) (by decide) "a b+c.json" .null).2 hname
  refine ⟨_, hmake, object, request, hasks, ?_⟩
  intro network hanswer
  obtain ⟨hrequest, hresponse⟩ := hsent network
  obtain ⟨hfollowed, hresult⟩ := hresponse _ hanswer rfl
  refine ⟨?_, hresult⟩
  rw [Outcome.requests, hrequest, hfollowed]
  rfl

end Storage.Bucket

end ChatTelemetry
