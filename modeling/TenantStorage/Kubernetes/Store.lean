import TenantStorage.Action
import TenantStorage.Kubernetes.Api

/-!
# Secrets on an API server

The calls to a store of secrets as requests to an API server.

* A read takes one request; an object that is not there is an answer, not a failure.
* A creation takes one request; the server refuses it when the name is taken.
* A replacement reads the object first and writes on the condition that it has not changed since.

The main definition is `Kubernetes.perform`.
-/

namespace TenantStorage.Kubernetes

/-- Whether a fault is a refusal with this code. -/
def Fault.hasCode (fault : Fault) (code : Nat) : Bool :=
  match fault with
  | .refused status => status.code == code
  | _ => false

/-- A secret's place in failures. -/
def placeOf (record : SecretRecord) : String := record.ns ++ "/" ++ record.name

/-- Reads a secret. -/
def get (ns name : String) : Program api (Except Failure (Option SecretRecord)) := do
  match ← send (readRequest ns name) with
  | .ok secret => return .ok (some (secret.toRecord ns name))
  | .error fault =>
    if fault.hasCode 404 then return .ok none else return .error (.kubernetes fault)

/-- Creates a secret. -/
def create (record : SecretRecord) : Program api (Except Failure Unit) := do
  match ← send (createRequest record.ns (.ofRecord record)) with
  | .ok _ => return .ok ()
  | .error fault =>
    if fault.hasCode 409 then return .error (.alreadyExists "Secret" (placeOf record))
    else return .error (.kubernetes fault)

/-- Replaces a secret. -/
def replace (record : SecretRecord) : Program api (Except Failure Unit) := do
  match ← send (readRequest record.ns record.name) with
  | .error fault =>
    if fault.hasCode 404 then return .error (.notFound "Secret" (placeOf record))
    else return .error (.kubernetes fault)
  | .ok current =>
    let desired := { Secret.ofRecord record with resourceVersion := current.resourceVersion }
    match ← send (replaceRequest record.ns record.name desired) with
    | .ok _ => return .ok ()
    | .error fault => return .error (.kubernetes fault)

/-- A call to the store as requests to the server. -/
def perform : (call : SecretCall) → Program api (Except Failure call.Answer)
  | .get ns name => get ns name
  | .create record => create record
  | .replace record => replace record

end TenantStorage.Kubernetes
