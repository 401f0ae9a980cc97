import ChatTelemetry.Url.Basic
/-!
Requests to storage services, and what an HTTP client makes of them: it goes on where an answer
sends it.
-/

namespace ChatTelemetry.Storage

/-- A request to a storage service. One with a body posts it as JSON; one without it just gets. -/
structure Request where
  url : Url
  authorization : Option String
  body : Option String
deriving DecidableEq, Repr, Inhabited

structure Response where
  status : Nat
  body : String
  /-- A locator to go on to, as it reads from where the answer comes. -/
  location : Option Url := none
deriving DecidableEq, Repr, Inhabited

/-- Where an answer sends the client on. -/
def Response.target? (r : Response) : Option Url :=
  if r.status ∈ [301, 302, 303, 307, 308] then r.location else none

/--
The request that goes on from one. Another host gets no authorization, and the body is posted again
only where the status asks for that.
-/
def Request.redirected (r : Request) (status : Nat) (target : Url) : Request where
  url := target
  authorization := if r.url.isSameHost target then r.authorization else none
  body := if status = 307 ∨ status = 308 then r.body else none

/-- The HTTP client of a process and what it reaches. What the client says is its own matter. -/
structure Network where
  /-- The answer to one request, or why there is none. -/
  answer : Request → Except String Response
  /-- How often the client goes on. -/
  redirectLimit : Nat := 10
  /-- What the client says where it does not go on to a locator. -/
  redirectFault : Url → String := fun _ => ""
  /-- What the client says of a header that it cannot send. -/
  headerFault : String := ""

/-- The requests that a client went on to from one, and the last answer or why there is none. -/
structure Transfer where
  followed : List Request
  answer : Except String Response

namespace Network

/-- A client that reaches nothing. -/
def silent : Network where
  answer := fun _ => .error ""

/-- What comes of a request from which the client goes on at most `left` times. -/
def transfer (n : Network) (left : Nat) (r : Request) : Transfer :=
  match n.answer r with
  | .error reason => ⟨[], .error reason⟩
  | .ok response =>
    match response.target? with
    | none => ⟨[], .ok response⟩
    | some target =>
      match left with
      | 0 => ⟨[], .error (n.redirectFault target)⟩
      | left + 1 =>
        if target.scheme = "http".toList ∨ target.scheme = "https".toList then
          let next := r.redirected response.status target
          let t := n.transfer left next
          ⟨next :: t.followed, t.answer⟩
        else ⟨[], .error (n.redirectFault target)⟩

def send (n : Network) (r : Request) : Transfer :=
  n.transfer n.redirectLimit r

end Network
end ChatTelemetry.Storage
