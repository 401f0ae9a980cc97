import ChatTelemetry.Storage.Network

/-!
This module shows what a client asks for where answers send it on: always with the authorization of
its first request or with none, and for the same whatever that authorization is.
-/

namespace ChatTelemetry.Storage

/-- The request with another token, if it is authorized at all. -/
def Request.withToken (token : String) (r : Request) : Request :=
  { r with authorization := r.authorization.map fun _ => "Bearer " ++ token }

@[simp]
theorem Request.redirected_withToken (r : Request) (token : String) (status : Nat) (target : Url)
    : (r.withToken token).redirected status target
        =
      (r.redirected status target).withToken token := by
  unfold redirected withToken
  split <;> rfl

namespace Network

/-- Whether the same is answered whoever it is that asks. -/
def IgnoresAuthorization (n : Network) : Prop :=
  ∀ r r', r.url = r'.url → r.body = r'.body → n.answer r = n.answer r'

variable {n : Network}

theorem send_of_answer {r : Request} {answer : Response} (hanswer : n.answer r = .ok answer)
    (htarget : answer.target? = none)
    : n.send r = ⟨[], .ok answer⟩ := by
  unfold send transfer
  rw [hanswer]
  dsimp only
  rw [htarget]

theorem authorization_of_mem_followed {left : Nat} {r next : Request}
    (h : next ∈ (n.transfer left r).followed)
    : next.authorization = r.authorization ∨ next.authorization = none := by
  fun_induction n.transfer left r with
  | case1 => contradiction
  | case2 => contradiction
  | case3 => contradiction
  | case4 r response _ target _ left _ redirected t ih =>
    have hredirected : redirected.authorization = r.authorization ∨
        redirected.authorization = none := by
      unfold redirected Request.redirected
      split <;> simp
    rcases List.mem_cons.mp h with rfl | h
    . exact hredirected
    . rcases ih h with hnext | hnext
      . rwa [hnext]
      . exact .inr hnext
  | case5 => contradiction

theorem transfer_withToken (hn : n.IgnoresAuthorization) (token : String) (left : Nat) (r : Request)
    : n.transfer left (r.withToken token)
        =
      ⟨(n.transfer left r).followed.map (·.withToken token), (n.transfer left r).answer⟩ := by
  have hanswer : ∀ r : Request, n.answer (r.withToken token) = n.answer r :=
    fun r => hn _ _ rfl rfl
  induction left generalizing r with
  | zero =>
    unfold transfer
    rw [hanswer]
    cases n.answer r with
    | error reason => rfl
    | ok response =>
      dsimp only
      cases response.target? <;> rfl
  | succ left ih =>
    unfold transfer
    rw [hanswer]
    cases n.answer r with
    | error reason => rfl
    | ok response =>
      dsimp only
      cases response.target? with
      | none => rfl
      | some target =>
        dsimp only
        rw [Request.redirected_withToken, ih]
        split <;> rfl

theorem send_withToken (hn : n.IgnoresAuthorization) (token : String) (r : Request)
    : n.send (r.withToken token)
        =
      ⟨(n.send r).followed.map (·.withToken token), (n.send r).answer⟩ := by
  exact transfer_withToken hn token n.redirectLimit r

end Network
end ChatTelemetry.Storage
