import TenantStorage.Metrics.Exposition
import TenantStorage.Password
import TenantStorage.Provision.Run
import TenantStorage.Simulation.World

/-!
# Steps of a simulated session

A session drives a world step by step: runs of the engine, parts of runs, direct calls, and looks
inside.

* `Simulation.Step` — what can be done.
* `Step.run` — does it; the result is a JSON value in which generated passwords are written as
  numbered placeholders.
* `World.beginStep` — what every step starts with.
-/

namespace TenantStorage.Simulation

/-- What can be done with a world. -/
inductive Step where
  /-- One run of the engine. -/
  | provision (request : Provision.Request)
  | reconcile (project : String) (svm : Svm)
  | selectNodes
  | probeAddressing
  | plan (request : Provision.EndpointRequest) (nodes : List Node) (peerGroups : Nat)
  | allocate (request : Provision.EndpointRequest) (nodes : List Node)
  | createInterface (interface : Interface)
  /-- A direct call. -/
  | call (call : Call)
  /-- A secret of the store in memory. -/
  | stored (ns name : String)
  /-- The interfaces of the controller in memory. -/
  | interfaces
  /-- The orders that the controller in memory has accepted. -/
  | orders
  | svmByName (name : String)
  | accountPassword (ownerUuid username : String)
  /-- The metrics in the exposition format. -/
  | metricsText

namespace World

/-! ### Writing what may hold passwords -/

/-- A password, or its placeholder if it was generated. -/
def showPassword (w : World) (password : String) : String :=
  match w.numberOf? password with
  | none => password
  | some n =>
    "<generated-" ++ n.repr ++ (if Password.hasShape password then "" else ":bad-shape") ++ ">"

/-- Credentials as members of an object. -/
def credentialsMembers (w : World) (credentials : Credentials) : List (String × Json) :=
  [("username", .ofText credentials.username),
    ("password", .ofText (w.showPassword credentials.password))]

/-- How account and secret came to agree. -/
def showCredentials (w : World) : Provision.CredentialOutcome → Json
  | .reconciled credentials =>
    .record (("outcome", .ofText "Reconciled") :: w.credentialsMembers credentials)
  | .secretCreated credentials rotated =>
    .record (("outcome", .ofText "SecretCreated") :: w.credentialsMembers credentials ++
      [("rotated", .bool rotated)])

/-- What a successful run did. -/
def showOutcome (w : World) (outcome : Provision.Outcome) : Json := .record [
  ("svm", outcome.svm.toJson),
  ("created", .bool outcome.created),
  ("interfaces", .array (outcome.interfaces.map Interface.toJson)),
  ("credentials", w.showCredentials outcome.credentials)]

/-- A secret record. -/
def showRecord (w : World) (record : SecretRecord) : Json :=
  let credentials := record.credentials
  { record with credentials := { credentials with
      password := w.showPassword credentials.password } : SecretRecord }.toJson

/-- An object of the API server.  A generated password stands there as its placeholder. -/
def showSecret (w : World) (secret : Kubernetes.Secret) : Json :=
  let password := secret.entry Kubernetes.Secret.passwordKey
  if (w.numberOf? password).isSome then
    secret.toJson.update "data" fun data =>
      data.update Kubernetes.Secret.passwordKey fun _ => .ofText (w.showPassword password)
  else secret.toJson

/-- A request to the API server as it is logged. -/
def showRequest (w : World) (request : Kubernetes.Request) : Json := .record [
  ("method", .ofText request.method.text),
  ("url", .ofText request.url),
  ("body", .ofOption w.showSecret request.body)]

/-- The answer to a direct call. -/
def showAnswer (w : World) : (call : Call) → call.Answer → Json
  | .controller (.svmByName _), found => .ofOption Svm.toJson found
  | .controller (.svm _), svm => .record [
      ("svm", svm.toJson),
      ("ready", .bool svm.isReady),
      ("condition", .ofText svm.condition)]
  | .controller .nodes, nodes => .array (nodes.map Node.toJson)
  | .controller .aggregates, aggregates => .array (aggregates.map Aggregate.toJson)
  | .controller .peerGroups, count => .ofNat count
  | .controller (.account _ _), found => .ofOption Account.toJson found
  | .secrets (.get _ _), found => .ofOption w.showRecord found
  | _, _ => .null

/-- The word for an addressing. -/
def showAddressing : Addressing → Json
  | .hostRoute => .ofText "HostRoute"
  | .subnet => .ofText "Subnet"

/-! ### Looking inside -/

/-- The controller, if it is in memory. -/
def memory? (w : World) : Option MemoryController :=
  match w.controller with
  | .memory controller => some controller
  | .rest .. => none

/-- The store of secrets, if it is in memory. -/
def memorySecrets? (w : World) : Option MemorySecrets :=
  match w.secrets with
  | .memory secrets => some secrets
  | .kubernetes _ => none

/-! ### Steps -/

/-- What every step starts with: no cancellation but its own, counted from now. -/
def beginStep (w : World) (cancelAfter : Option Nat) : World :=
  { w with clock := w.clock.cancelAfter cancelAfter }

/-- Runs a part of the engine and writes its result. -/
def runShown {α : Type} (attempt : Attempt α) (write : World → α → Json) (w : World) :
    Except Failure Json × World :=
  let (result, w) := w.run attempt
  (result.map (write w), w)

end World

/-- Does a step under the settings of the engine.  A look inside a system that is not in memory finds
    nothing. -/
def Step.run (engine : Settings.Engine) : Step → World → Except Failure Json × World
  | provision request, w => w.runShown (request.provision engine) World.showOutcome
  | reconcile project svm, w =>
    w.runShown (Provision.reconcile engine project svm) World.showCredentials
  | selectNodes, w => w.runShown Provision.selectNodes fun _ nodes => .array (nodes.map Node.toJson)
  | probeAddressing, w =>
    w.runShown Provision.probeAddressing fun _ mode => World.showAddressing mode
  | plan request nodes peerGroups, w =>
    ((request.plan engine nodes (.ofPeerGroups peerGroups)).map fun interfaces =>
      .array (interfaces.map Interface.toJson), w)
  | allocate request nodes, w =>
    w.runShown (Provision.allocate engine request nodes) fun _ interfaces =>
      .array (interfaces.map Interface.toJson)
  | createInterface interface, w =>
    w.runShown (Provision.createInterface interface) fun _ _ => .null
  | call c, w =>
    let (result, w) := w.perform c
    (result.map (w.showAnswer c), w)
  | stored ns name, w =>
    (.ok (.ofOption w.showRecord (w.memorySecrets?.bind (·.stored ns name))), w)
  | interfaces, w =>
    (.ok (.array (((w.memory?.map (·.interfaces)).getD []).map Interface.toJson)), w)
  | orders, w => (.ok (.array (((w.memory?.map (·.orders)).getD []).map Svm.Order.toJson)), w)
  | svmByName name, w => (.ok (.ofOption Svm.toJson (w.memory?.bind (·.svmByName name))), w)
  | accountPassword ownerUuid username, w =>
    (.ok (.ofOption (fun p => .ofText (w.showPassword p))
      (w.memory?.bind (·.passwordOf ownerUuid username))), w)
  | metricsText, w => (.ok (.ofText (w.metrics.exposition default)), w)

end TenantStorage.Simulation
