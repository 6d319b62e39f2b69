import GpuFleet.Api.Form
import GpuFleet.Api.Target
import GpuFleet.Json.Fields
import GpuFleet.Misconfiguration
import GpuFleet.Text.Quoted

/-!
Requests to the API server and what its responses say.
-/
namespace GpuFleet.Api

inductive Method where
  | get
  | patch
  | delete
deriving DecidableEq, Repr

def Method.name : Method → String
  | .get => "GET"
  | .patch => "PATCH"
  | .delete => "DELETE"

structure Request where
  method : Method
  target : Target
  contentType : Option String := none
  body : Option Json := none
deriving DecidableEq, Repr

structure Response where
  /-- The HTTP status code. -/
  status : Nat
  text : String

/-- Why the server has refused a request. -/
structure Refusal where
  code : Nat
  reason : String
  message : String
deriving DecidableEq, Repr

/-- Why a request cannot be sent. -/
inductive Obstacle where
  /-- A request for an object needs its name. -/
  | noName
  | badTarget (fault : Target.Fault)
deriving DecidableEq, Repr

def Obstacle.message : Obstacle → String
  | .noName => "failed to validate request: A non-empty name is required"
  | .badTarget fault => "failed to build request: " ++ fault.message

inductive Error where
  | misconfigured (cause : Misconfiguration)
  | unsendable (obstacle : Obstacle)
  /-- The response has no HTTP status code. -/
  | noStatus
  | refused (refusal : Refusal)
  /-- The response is not what was asked for. -/
  | unreadable
deriving DecidableEq, Repr

/-- The requests that a call has sent, and its result. -/
structure Exchange (α : Type) where
  requests : List Request
  result : Except Error α

/-- What answers requests. -/
abbrev Transport := Request → Response

namespace Refusal

/-- The refusal that the members of an error object state. -/
def ofMembers? (m : Members) : Option Refusal := do
  let _ ← m.need? Json.string? "status"
  some {
    code := ← m.need? (unsigned? 16) "code"
    reason := ← m.strictD Json.string? "" "reason"
    message := ← m.strictD Json.string? "" "message" }

/-- An error object, or the list of its members. -/
def form : Form Refusal :=
  .ofFields [("status", .whole), ("message", .whole), ("reason", .whole), ("code", .whole)]
    ofMembers?

/-- What a response of refusal says. A text that is no error object is quoted. -/
def ofResponse (r : Response) : Refusal :=
  (form.ofText? r.text).getD
    { code := r.status, reason := "Failed to parse error data", message := Text.quoted r.text }

end Refusal

namespace Response

/-- The status is one that HTTP has. -/
def hasStatus (r : Response) : Bool := 100 ≤ r.status && r.status ≤ 999

/-- The server has refused the request. -/
def isRefusal (r : Response) : Bool := 400 ≤ r.status && r.status ≤ 599

/-- What a response says to a call that reads it by `read`. -/
def result (read : String → Option α) (r : Response) : Except Error α :=
  if !r.hasStatus then .error .noStatus
  else if r.isRefusal then .error (.refused (.ofResponse r))
  else match read r.text with
    | some v => .ok v
    | none => .error .unreadable

end Response

/-- A request whose target is still a text. -/
structure Draft where
  method : Method
  target : String
  contentType : Option String := none
  body : Option Json := none

namespace Exchange

/-- A call that sends nothing. -/
def fail (e : Error) : Exchange α := ⟨[], .error e⟩

/-- Sends a request and reads the response. -/
def send (transport : Transport) (read : String → Option α) (draft : Draft) : Exchange α :=
  match Target.ofText draft.target with
  | .error fault => fail (.unsendable (.badTarget fault))
  | .ok target =>
    let request : Request := ⟨draft.method, target, draft.contentType, draft.body⟩
    ⟨[request], (transport request).result read⟩

/-- Sends a request for an object with a name. -/
def sendNamed (transport : Transport) (read : String → Option α) (name : String)
    (draft : Draft) : Exchange α :=
  if name.isEmpty then fail (.unsendable .noName) else send transport read draft

/-- The call with its result put through `f`. -/
def map (f : α → β) (x : Exchange α) : Exchange β := ⟨x.requests, x.result.map f⟩

/-- The call with some refusals taken for a result. -/
def accept (f : Refusal → Option α) (x : Exchange α) : Exchange α :=
  ⟨x.requests, match x.result with
    | .error (.refused r) =>
      match f r with
      | some v => .ok v
      | none => .error (.refused r)
    | result => result⟩

end Exchange

end GpuFleet.Api
