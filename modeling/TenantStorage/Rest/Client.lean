import TenantStorage.Rest.Reply

/-!
# A storage controller behind its management interface

A call to the controller is one request.  A status of 200 to 299 is a success; an account that is not
there is an answer, not a failure.

* `Target.accept` — which replies are successes.
* `Rest.interpret` — what a reply means for a call.
* `Rest.perform` — a call as a program of requests.
-/

namespace TenantStorage.Rest

/-- Requests as operations of programs. -/
def api : Signature := ⟨Request, fun _ => Reply⟩

/-- Whether a call only reads. -/
def readsBody : ControllerCall → Bool
  | .createSvm _ | .createInterface _ | .createAccount _ | .setPassword _ _ _ => false
  | _ => true

/-- The value of the body of a successful reply.  Calls that change something do not look at it. -/
def bodyValue? (call : ControllerCall) (body : List UInt8) : Option Json :=
  if readsBody call then Json.ofUnits? (Utf8.units body) else some .null

/-- The body of a success, or the failure that a reply stands for. -/
def Target.accept (target : Target) : Reply → Except Failure (List UInt8)
  | .broken => .error .http
  | .arrived status body text =>
    if 200 ≤ status ∧ status < 300 then .ok body
    else .error (target.refusal status text)

/-- What the body of a success says about a call. -/
def bodyAnswer (call : ControllerCall) (body : List UInt8) : Except Failure call.Answer :=
  match (bodyValue? call body).bind (readAnswer? call) with
  | some value => .ok value
  | none => .error .jsonParse

/-- What a reply means, before the exception for missing accounts. -/
def plainAnswer (call : ControllerCall) (reply : Reply) : Except Failure call.Answer := do
  bodyAnswer call (← (targetOf call).accept reply)

/-- What a reply means for a call. -/
def interpret : (call : ControllerCall) → Reply → Except Failure call.Answer
  | .account ownerUuid username, reply =>
    match plainAnswer (.account ownerUuid username) reply with
    | .ok found => .ok found
    | .error failure => if failure.isNotFound then .ok none else .error failure
  | call, reply => plainAnswer call reply

/-- A call as a request to the management interface.  An endpoint that makes no URL is never reached. -/
def perform (settings : Settings.Controller) (call : ControllerCall) :
    Program api (Except Failure call.Answer) :=
  match request? settings (queryOf call) with
  | none => pure (.error .http)
  | some request => do return interpret call (← Program.perform (S := api) request)

end TenantStorage.Rest
