import TenantStorage.Provision.Credentials
import TenantStorage.Provision.Endpoints
import TenantStorage.Readiness
import TenantStorage.Text.Blank

/-!
# Provisioning storage for a tenant

1. Select the nodes for the network interfaces.
2. Order the machine, unless there is one with the project's name, and wait until it is ready.
3. Create the data interfaces and the management interface.
4. Bring the administrative account and its secret into agreement.

Each step may find its work done, so a run that failed is mended by another run.  Nothing is taken back.

* `Request.validate` — what a request has to satisfy.
* `Request.provision` — one run; failures tell the project and the step.
-/

namespace TenantStorage.Provision

open Engine

/-- The storage that a tenant asks for. -/
structure Request where
  /-- The identifier of the project, which is also the name of its machine. -/
  projectId : String
  dataIps : List Address
  managementIp : Address
deriving DecidableEq, Repr

/-- What a successful run did. -/
structure Outcome where
  svm : Svm
  /-- Whether this run ordered the machine. -/
  created : Bool
  /-- The interfaces that the machine has now: data first, then management. -/
  interfaces : List Interface
  credentials : CredentialOutcome
deriving DecidableEq, Repr

/-! ### Validation -/

/-- The characters that a query of the controller takes for operators. -/
def queryOperators : List Char := ['*', '|', '!', '<', '>', '=', ',', '{', '}']

/-- Whether a name can be looked up as it stands: without operators, without `..`, which is a range, and
    without blanks. -/
def isQueryable (name : String) : Bool :=
  !(name.toList.any fun c => queryOperators.contains c || Text.isBlank c) &&
    !Text.contains name ".."

namespace Request

/-- A request names its project, by a name that can be looked up, and at least one data address. -/
def validate (request : Request) : Except Failure Unit := do
  if Text.isBlankText request.projectId then
    throw (.validation "project id must not be empty")
  if !isQueryable request.projectId then
    throw (.validation ("project id '" ++ request.projectId ++
      "' contains query operators or whitespace"))
  if request.dataIps.isEmpty then
    throw (.validation ("project " ++ request.projectId ++ " requested no data addresses"))

end Request

/-! ### The machine -/

/-- Orders a machine on all aggregates, with NVMe. -/
def orderSvm (project : String) : Attempt Unit := do
  let aggregates ← within project "list aggregates" (controller .aggregates)
  let order : Svm.Order :=
    { name := project, aggregates := aggregates.map (·.name), nvmeEnabled := true }
  within project "create svm" (controller (.createSvm order))
  count .svmCreated

/-- What the state of a machine means for a wait. -/
def probeOf (svm : Svm) : Probe Svm :=
  if svm.isReady then .ready svm else .pending svm.condition

/-- Looks at a machine: by name for its identifier, then by identifier for its state. -/
def lookAtSvm (project : String) : Engine (Option (Except Failure (Probe Svm))) := do
  match ← watch (.controller (.svmByName project)) with
  | none => return none
  | some (.error failure) => return some (.error failure)
  | some (.ok none) => return some (.ok (.pending ("svm " ++ project ++ " not visible yet")))
  | some (.ok (some found)) =>
    match found.uuid with
    | none => return some (.ok (.pending found.condition))
    | some uuid =>
      match ← watch (.controller (.svm uuid)) with
      | none => return none
      | some (.error failure) => return some (.error failure)
      | some (.ok svm) => return some (.ok (probeOf svm))

/-- Pauses and cancellation as the engine has them. -/
def engineTimer : Timer actions where
  cancelled := Program.perform (S := actions) .cancelled
  pause duration := Program.perform (S := actions) (.pause duration)

/-- Waits until a machine is ready. -/
def awaitSvm (policy : RetryPolicy) (project : String) : Attempt Svm := ExceptT.mk do
  match ← policy.poll engineTimer (lookAtSvm project) with
  | .ready svm attempts =>
    count (.readiness attempts)
    return .ok svm
  | .exhausted attempts lastCondition =>
    count (.readiness attempts)
    return .error (.readinessTimeout project attempts lastCondition)
  | .failed failure => return .error failure
  | .cancelled => return .error (.cancelled ("waiting for svm " ++ project))

/-- The machine of a project, and whether it had to be ordered. -/
def ensureSvm (engine : Settings.Engine) (project : String) : Attempt (Svm × Bool) := do
  match ← within project "look up svm" (controller (.svmByName project)) with
  | some svm => return (svm, false)
  | none =>
    orderSvm project
    let svm ← within project "wait for svm" (awaitSvm (.ofSettings engine.readiness) project)
    return (svm, true)

/-! ### A run -/

/-- The steps of a run. -/
def Request.steps (request : Request) (engine : Settings.Engine) : Attempt Outcome := do
  request.validate
  let project := request.projectId
  let nodes ← within project "select nodes" selectNodes
  let (svm, created) ← ensureSvm engine project
  let svmUuid ← within project "resolve svm uuid" (liftM (requireUuid svm))
  let endpoints : EndpointRequest :=
    { svmUuid, dataIps := request.dataIps, managementIp := request.managementIp }
  let interfaces ← within project "allocate interfaces" (allocate engine endpoints nodes)
  let credentials ← within project "reconcile credentials" (reconcile engine project svm)
  return { svm, created, interfaces, credentials }

/-- One run.  Its end is counted, also when the request is not valid. -/
def Request.provision (request : Request) (engine : Settings.Engine) : Attempt Outcome :=
  ExceptT.mk do
    let result ← (request.steps engine).run
    count (.provision result.isOk)
    return result

end TenantStorage.Provision
