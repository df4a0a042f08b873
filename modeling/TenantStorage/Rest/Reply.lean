import TenantStorage.Octets.Encoding
import TenantStorage.Rest.Request
import TenantStorage.Text.Blank
import TenantStorage.Text.Case

/-!
# Replies of the management interface

* `Rest.Reply` — what comes back for a request; `Reply.answer` — one that names no encoding.
* `Rest.Target` — what a call acts on, as failures name it.
* `Target.refusal` — the failure that a status and the text of a body stand for.
* `Rest.readAnswer?` — what a successful body says about a call.
-/

namespace TenantStorage.Rest

/-- What comes back for a request. -/
inductive Reply where
  /-- A status and a body: its octets, and the text that they are read as.  A reply may name the encoding. -/
  | arrived (status : Nat) (body : List UInt8) (text : String)
  /-- The connection was not made, or broke off. -/
  | broken
deriving DecidableEq, Repr

/-- A reply that leaves it to the octets of its body to tell their encoding. -/
def Reply.answer (status : Nat) (body : List UInt8) : Reply := .arrived status body (Encoding.textOf body)

/-! ### Refusals -/

/-- What a call acts on. -/
structure Target where
  operation : String
  kind : String
  name : String
deriving DecidableEq, Repr

/-- What a call acts on. -/
def targetOf : ControllerCall → Target
  | .svmByName name => ⟨"get svm by name", "Svm", name⟩
  | .svm uuid => ⟨"get svm", "Svm", uuid⟩
  | .createSvm order => ⟨"create svm", "Svm", order.name⟩
  | .nodes => ⟨"list nodes", "Node", "*"⟩
  | .aggregates => ⟨"list aggregates", "Aggregate", "*"⟩
  | .createInterface interface => ⟨"create interface", "NetworkInterface", interface.name⟩
  | .peerGroups => ⟨"list bgp peer groups", "BgpPeerGroup", "*"⟩
  | .createAccount order => ⟨"create account", "Account", order.credentials.username⟩
  | .account _ username => ⟨"get account", "Account", username⟩
  | .setPassword _ username _ => ⟨"set account password", "Account", username⟩

/-- A value that may be `null`. -/
def orNull? {α : Type} (read : Json → Option α) : Json → Option (Option α)
  | .null => some none
  | value => (read value).map some

/-- The message of an error, with its code if there is one. -/
def errorMessage? (value : Json) : Option String := do
  let fields ← Fields.of? ["message", "code"] value
  let message ← fields.get "message" Json.text? ""
  match ← fields.get "code" (orNull? Json.text?) none with
  | some code => return message ++ " (code " ++ code ++ ")"
  | none => return message

/-- The message of the error that a body describes. -/
def describedMessage? (body : String) : Option String := do
  let fields ← Fields.of? ["error"] (← Json.parse? body)
  fields.require "error" errorMessage?

/-- The message of a body: that of the error it describes, or else its text. -/
def refusalMessage (body : String) : String := (describedMessage? body).getD (Text.trim body)

/-- Whether a message complains of a name that is taken. -/
def isDuplicate (message : String) : Bool :=
  Text.contains (Text.lower message) "duplicate entry" ||
    Text.contains (Text.lower message) "already exists"

/-- The failure that a status other than success stands for. -/
def Target.refusal (target : Target) (status : Nat) (body : String) : Failure :=
  let message := refusalMessage body
  if status = 404 then .notFound target.kind target.name
  else if status = 409 then .alreadyExists target.kind target.name
  else if 400 ≤ status ∧ status < 500 ∧ isDuplicate message then
    .alreadyExists target.kind target.name
  else .controller target.operation status message

/-! ### Records -/

/-- The records of a collection, and their number as the collection tells it. -/
def collection? {α : Type} (read : Json → Option α) (value : Json) :
    Option (List α × Option Nat) := do
  let fields ← Fields.of? ["records", "num_records"] value
  let records ← fields.get "records" (Json.listOf? read) []
  let count ← fields.get "num_records" (orNull? (Json.natural? UInt64.size)) none
  return (records, count)

/-- A reference by name and identifier. -/
structure Reference where
  name : String
  uuid : Option String
deriving DecidableEq, Repr, Inhabited

/-- Reads a reference. -/
def Reference.ofJson? (value : Json) : Option Reference := do
  let fields ← Fields.of? ["name", "uuid"] value
  return {
    name := ← fields.get "name" Json.text? ""
    uuid := ← fields.get "uuid" (orNull? Json.text?) none }

/-- Whether a protocol is enabled. -/
def protocolEnabled? (value : Json) : Option Bool := do
  let fields ← Fields.of? ["enabled"] value
  fields.get "enabled" Json.bool? false

/-- Reads a machine.  Without a state it is still being created, without an NVMe service it has none. -/
def svm? (value : Json) : Option Svm := do
  let fields ← Fields.of? ["name", "uuid", "state", "nvme", "aggregates"] value
  let name ← fields.require "name" Json.text?
  let uuid ← fields.get "uuid" (orNull? Json.text?) none
  let state ← fields.get "state" (orNull? Json.text?) none
  let nvme ← fields.get "nvme" (orNull? protocolEnabled?) none
  let aggregates ← fields.get "aggregates" (Json.listOf? Reference.ofJson?) []
  return {
    name
    uuid
    state := (state.map Svm.State.parse).getD .creating
    nvmeEnabled := nvme.getD false
    aggregates := aggregates.map (·.name) }

/-- Reads an account; where its owner is not told, it is the one that was asked for. -/
def account? (ownerUuid : String) (value : Json) : Option Account := do
  let fields ← Fields.of? ["name", "owner", "role", "locked"] value
  let username ← fields.require "name" Json.text?
  let owner ← fields.get "owner" Reference.ofJson? ⟨"", none⟩
  let role ← fields.get "role" Reference.ofJson? ⟨"", none⟩
  let locked ← fields.get "locked" Json.bool? false
  return { ownerUuid := owner.uuid.getD ownerUuid, username, role := role.name, locked }

/-- What the value of a successful body says about a call.  Calls that change something read nothing. -/
def readAnswer? : (call : ControllerCall) → Json → Option call.Answer
  | .svmByName _, value => (collection? svm? value).map fun found => found.1.head?
  | .svm _, value => svm? value
  | .createSvm _, _ => some ()
  | .nodes, value => (collection? Node.ofJson? value).map (·.1)
  | .aggregates, value => (collection? Aggregate.ofJson? value).map (·.1)
  | .createInterface _, _ => some ()
  | .peerGroups, value =>
    (collection? Reference.ofJson? value).map fun found => found.2.getD found.1.length
  | .createAccount _, _ => some ()
  | .account ownerUuid _, value => (account? ownerUuid value).map some
  | .setPassword _ _ _, _ => some ()

end TenantStorage.Rest
