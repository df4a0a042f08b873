import TenantStorage.Kubernetes.Fault

/-!
# Failures

A `Failure` is the cause for which an operation stopped, inside any number of wrappers that say
for which project and at which step, or at which network interface, it happened.

* `Failure.root` — the cause without its wrappers.
* `Failure.requeue` — when a caller should try again; it depends on the root alone.
* `Failure.isRetryable`, `isTransient`, `isNotFound`, `isAlreadyExists` — questions about the root.
* `Failure.message` — the wording; `Failure.chain` — the labels from the outermost wrapper to the root.
-/

namespace TenantStorage

/-- Why an operation stopped. -/
inductive Failure where
  /-- A state that should not occur. -/
  | internal (message : String)
  | configuration (message : String)
  | validation (message : String)
  | cancelled (operation : String)
  | notFound (kind name : String)
  | alreadyExists (kind name : String)
  /-- The account exists, no secret holds its password, and rotation is switched off. -/
  | seedSecretMissing (svm username : String)
  | readinessTimeout (svm : String) (attempts : Nat) (lastCondition : String)
  | insufficientNodes (found required : Nat)
  /-- Wraps the cause for which a network interface could not be created. -/
  | interfaceCreation (interface : String) (source : Failure)
  /-- Wraps a cause with the project and the step that failed. -/
  | context (project operation : String) (source : Failure)
  /-- The storage controller answered with a status that is not a success. -/
  | controller (operation : String) (status : Nat) (message : String)
  /-- The storage controller could not be reached, or its answer broke off. -/
  | http
  | kubernetes (fault : Kubernetes.Fault)
  /-- A text is not the JSON that was expected. -/
  | jsonParse
  /-- A text is not the YAML that was expected. -/
  | yamlParse
  | io (message : String)
  /-- Without a message, the same metric was registered twice. -/
  | metrics (message : Option String)
deriving DecidableEq, Repr, Inhabited

/-- What a caller should do about a failure. -/
inductive Requeue where
  /-- Try again, with growing pauses. -/
  | backoff
  /-- Try again after a fixed time. -/
  | after (seconds : Nat)
  /-- Wait until something changes. -/
  | never
deriving DecidableEq, Repr, Inhabited

namespace Failure

/-! ### The root cause -/

/-- The cause inside all wrappers. -/
def root : Failure → Failure
  | context _ _ source => source.root
  | interfaceCreation _ source => source.root
  | cause => cause

/-- When to try again.  What may come and go by itself is retried with growing pauses; a machine that
    needs more time, a topology that is too small and a lost race each have a time of their own; what
    only a person can mend is not retried. -/
def requeue (f : Failure) : Requeue :=
  match f.root with
  | readinessTimeout .. => .after 30
  | insufficientNodes .. => .after 300
  | alreadyExists .. => .after 5
  | configuration _ | validation _ | cancelled _ | seedSecretMissing .. => .never
  | _ => .backoff

/-- Whether trying again is of any use. -/
def isRetryable (f : Failure) : Bool := f.requeue != .never

/-- Whether the failure lies in the connection to one of the two systems. -/
def isTransient (f : Failure) : Bool :=
  match f.root with
  | http | kubernetes _ | controller .. => true
  | _ => false

/-- Whether a resource was missing. -/
def isNotFound (f : Failure) : Bool :=
  match f.root with
  | notFound .. => true
  | _ => false

/-- Whether a name was taken on creation. -/
def isAlreadyExists (f : Failure) : Bool :=
  match f.root with
  | alreadyExists .. => true
  | _ => false

/-! ### Wording -/

/-- The name of a cause or wrapper. -/
def label : Failure → String
  | internal _ => "Internal"
  | configuration _ => "Configuration"
  | validation _ => "Validation"
  | cancelled _ => "Cancelled"
  | notFound .. => "NotFound"
  | alreadyExists .. => "AlreadyExists"
  | seedSecretMissing .. => "SeedSecretMissing"
  | readinessTimeout .. => "ReadinessTimeout"
  | insufficientNodes .. => "InsufficientNodes"
  | interfaceCreation .. => "InterfaceCreation"
  | context .. => "Context"
  | controller .. => "Controller"
  | http => "Http"
  | kubernetes _ => "Kube"
  | jsonParse => "JsonParse"
  | yamlParse => "YamlParse"
  | io _ => "Io"
  | metrics _ => "Metrics"

/-- The labels from the outermost wrapper to the root. -/
def chain : Failure → List String
  | context p o source => (context p o source).label :: source.chain
  | interfaceCreation i source => (interfaceCreation i source).label :: source.chain
  | cause => [cause.label]

/-- The wording.  Connections and parsers outside the library describe their failures in words that are
    not fixed; in their place stands the label in angle brackets. -/
def message : Failure → String
  | internal m => "Internal error: " ++ m
  | configuration m => "Configuration error: " ++ m
  | validation m => "Validation failed: " ++ m
  | cancelled operation => "Operation cancelled: " ++ operation
  | notFound kind name => "Resource not found: " ++ kind ++ "/" ++ name
  | alreadyExists kind name => "Resource already exists: " ++ kind ++ "/" ++ name
  | seedSecretMissing svm username =>
    "Credential secret missing for existing account " ++ username ++ " on SVM " ++ svm
  | readinessTimeout svm attempts lastCondition =>
    "SVM " ++ svm ++ " not ready after " ++ toString attempts ++ " attempts: " ++ lastCondition
  | insufficientNodes found required =>
    "Insufficient storage nodes: found " ++ toString found ++ ", need at least " ++ toString required
  | interfaceCreation interface source =>
    "Failed to create network interface " ++ interface ++ ": " ++ source.message
  | context project operation source =>
    operation ++ " failed for project " ++ project ++ ": " ++ source.message
  | controller operation status m =>
    "Storage controller error: " ++ operation ++ " returned " ++ toString status ++ ": " ++ m
  | http => "<Http>"
  | kubernetes fault => "Kubernetes API error: " ++ fault.message
  | jsonParse => "<JsonParse>"
  | yamlParse => "<YamlParse>"
  | io m => "IO error: " ++ m
  | metrics (some m) => "Metrics registration error: Error: " ++ m
  | metrics none =>
    "Metrics registration error: Duplicate metrics collector registration attempted"

end Failure

end TenantStorage
