import TenantStorage.Text.Quoted

/-!
# How a Kubernetes call fails

* `Kubernetes.Status` — the answer of an API server that refused a call.
* `Kubernetes.Fault` — every way in which a call can fail, from the request that could not be
  written to the object that could not be read.
* `Kubernetes.Fault.message` — the wording.
-/

namespace TenantStorage.Kubernetes

/-- What the API server says about a refused call.  The `code` is the one inside the answer. -/
structure Status where
  status : String
  message : String
  reason : String
  code : Nat
deriving DecidableEq, Repr, Inhabited

/-- Why a call to the API server did not deliver. -/
inductive Fault where
  /-- The server refused the call. -/
  | refused (status : Status)
  /-- Namespace and name do not form a request path. -/
  | invalidPath
  /-- The request path would be too long. -/
  | longPath
  /-- The answer is not text; `detail` says where it breaks off. -/
  | notText (detail : String)
  /-- The answer is text but not a Secret. -/
  | unreadable
  /-- No answer arrived. -/
  | transport (detail : String)
deriving DecidableEq, Repr, Inhabited

/-- The record as it is shown in messages. -/
def Status.shown (s : Status) : String :=
  "ErrorResponse \x7b status: " ++ Text.quote s.status ++ ", message: " ++ Text.quote s.message ++
    ", reason: " ++ Text.quote s.reason ++ ", code: " ++ toString s.code ++ " \x7d"

/-- The wording of a fault. -/
def Fault.message : Fault → String
  | .refused s => "ApiError: " ++ s.message ++ ": " ++ s.reason ++ " (" ++ s.shown ++ ")"
  | .invalidPath => "Failed to build request: failed to build request: invalid uri character"
  | .longPath => "Failed to build request: failed to build request: uri too long"
  | .notText detail => "UTF-8 Error: " ++ detail
  | .unreadable => "Error deserializing response"
  | .transport detail => "ServiceError: " ++ detail

end TenantStorage.Kubernetes
