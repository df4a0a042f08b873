import TenantStorage.Account
import TenantStorage.Cluster
import TenantStorage.Document
import TenantStorage.Json.Parse
import TenantStorage.Svm

/-!
# JSON forms of the domain types

A record is an object, or an array of its fields in their order.  Unknown members are passed over, a
known one may occur once, and only an optional field may be missing or `null`.  A value of an
enumeration is its word, or an object whose only member has the word as its key.

* the instance `Document Json`.
* `ofJson?` and `toJson` for every domain type.
-/

namespace TenantStorage

instance : Document Json where
  members? value := match value with
    | .object members => some members
    | _ => none
  items? := Json.items?
  text? := Json.text?
  bool? := Json.bool?
  natural? := Json.natural?

/-- A field that may be missing from an object, or `null`. -/
def Fields.optional {α : Type} (fields : Fields Json) (name : String) (read : Json → Option α) :
    Option (Option α) :=
  match fields.find? name with
  | none => if fields.positional then none else some none
  | some .null => some none
  | some value => (read value).map some

/-- The word of an enumeration value, and what it carries: nothing when the word stands by itself. -/
def Json.word? : Json → Option (String × Option Json)
  | .string (some word) => some (word, none)
  | .object [(some word, value)] => some (word, some value)
  | _ => none

/-- Whether a word carries nothing, or an explicit `null`. -/
def Json.carriesNothing : Option Json → Bool
  | none => true
  | some value => value.isNull

/-! ### Storage virtual machines -/

namespace Svm

/-- Reads a lifecycle state. -/
def State.ofJson? (value : Json) : Option State :=
  match value.word? with
  | some ("creating", carried) => if Json.carriesNothing carried then some .creating else none
  | some ("running", carried) => if Json.carriesNothing carried then some .running else none
  | some ("other", some carried) => carried.text?.map .other
  | _ => none

/-- Writes a lifecycle state. -/
def State.toJson : State → Json
  | .creating => .ofText "creating"
  | .running => .ofText "running"
  | .other word => .record [("other", .ofText word)]

/-- Reads a machine. -/
def ofJson? (value : Json) : Option Svm := do
  let fields ← Fields.of? ["name", "uuid", "state", "nvme_enabled", "aggregates"] value
  return {
    name := ← fields.require "name" Json.text?
    uuid := ← fields.optional "uuid" Json.text?
    state := ← fields.require "state" State.ofJson?
    nvmeEnabled := ← fields.require "nvme_enabled" Json.bool?
    aggregates := ← fields.require "aggregates" (Json.listOf? Json.text?) }

/-- Writes a machine. -/
def toJson (svm : Svm) : Json := .record [
  ("name", .ofText svm.name),
  ("uuid", .ofOption .ofText svm.uuid),
  ("state", svm.state.toJson),
  ("nvme_enabled", .bool svm.nvmeEnabled),
  ("aggregates", .array (svm.aggregates.map .ofText))]

/-- Reads what a machine is created from. -/
def Order.ofJson? (value : Json) : Option Order := do
  let fields ← Fields.of? ["name", "aggregates", "nvme_enabled"] value
  return {
    name := ← fields.require "name" Json.text?
    aggregates := ← fields.require "aggregates" (Json.listOf? Json.text?)
    nvmeEnabled := ← fields.require "nvme_enabled" Json.bool? }

/-- Writes what a machine is created from. -/
def Order.toJson (order : Order) : Json := .record [
  ("name", .ofText order.name),
  ("aggregates", .array (order.aggregates.map .ofText)),
  ("nvme_enabled", .bool order.nvmeEnabled)]

end Svm

/-! ### Nodes, aggregates and interfaces -/

/-- Reads a node. -/
def Node.ofJson? (value : Json) : Option Node := do
  let fields ← Fields.of? ["uuid", "name"] value
  return { uuid := ← fields.require "uuid" Json.text?, name := ← fields.require "name" Json.text? }

/-- Writes a node. -/
def Node.toJson (node : Node) : Json :=
  .record [("uuid", .ofText node.uuid), ("name", .ofText node.name)]

/-- Reads an aggregate. -/
def Aggregate.ofJson? (value : Json) : Option Aggregate := do
  let fields ← Fields.of? ["uuid", "name"] value
  return { uuid := ← fields.require "uuid" Json.text?, name := ← fields.require "name" Json.text? }

/-- Writes an aggregate. -/
def Aggregate.toJson (aggregate : Aggregate) : Json :=
  .record [("uuid", .ofText aggregate.uuid), ("name", .ofText aggregate.name)]

namespace Interface

/-- Reads a role. -/
def Role.ofJson? (value : Json) : Option Role :=
  match value.word? with
  | some ("data", carried) => if Json.carriesNothing carried then some .data else none
  | some ("management", carried) => if Json.carriesNothing carried then some .management else none
  | _ => none

/-- Writes a role. -/
def Role.toJson (role : Role) : Json := .ofText role.text

/-- Reads an address. -/
def address? (value : Json) : Option Address := value.text?.bind Address.parse?

/-- Reads a prefix length. -/
def netmask? (value : Json) : Option UInt8 := (value.natural? 256).map UInt8.ofNat

/-- Reads an interface. -/
def ofJson? (value : Json) : Option Interface := do
  let fields ← Fields.of? ["name", "ip", "netmask", "role", "vip", "service_policy", "svm_uuid",
    "node_uuid"] value
  return {
    name := ← fields.require "name" Json.text?
    ip := ← fields.require "ip" address?
    netmask := ← fields.require "netmask" netmask?
    role := ← fields.require "role" Role.ofJson?
    vip := ← fields.require "vip" Json.bool?
    servicePolicy := ← fields.require "service_policy" Json.text?
    svmUuid := ← fields.require "svm_uuid" Json.text?
    nodeUuid := ← fields.require "node_uuid" Json.text? }

/-- Writes an interface. -/
def toJson (interface : Interface) : Json := .record [
  ("name", .ofText interface.name),
  ("ip", .ofText interface.ip.text),
  ("netmask", .ofNat interface.netmask.toNat),
  ("role", interface.role.toJson),
  ("vip", .bool interface.vip),
  ("service_policy", .ofText interface.servicePolicy),
  ("svm_uuid", .ofText interface.svmUuid),
  ("node_uuid", .ofText interface.nodeUuid)]

end Interface

/-! ### Accounts and secrets -/

/-- Reads an account. -/
def Account.ofJson? (value : Json) : Option Account := do
  let fields ← Fields.of? ["owner_uuid", "username", "role", "locked"] value
  return {
    ownerUuid := ← fields.require "owner_uuid" Json.text?
    username := ← fields.require "username" Json.text?
    role := ← fields.require "role" Json.text?
    locked := ← fields.require "locked" Json.bool? }

/-- Writes an account. -/
def Account.toJson (account : Account) : Json := .record [
  ("owner_uuid", .ofText account.ownerUuid),
  ("username", .ofText account.username),
  ("role", .ofText account.role),
  ("locked", .bool account.locked)]

/-- Reads labels. -/
def SecretRecord.labels? : Json → Option (SortedMap String String)
  | .object members => do
    let pairs ← members.mapM fun member => do return (← member.1, ← member.2.text?)
    return .ofList pairs
  | _ => none

/-- Reads a secret record, whose labels may be left out. -/
def SecretRecord.ofJson? (value : Json) : Option SecretRecord := do
  let fields ← Fields.of? ["namespace", "name", "labels", "username", "password"] value
  return {
    ns := ← fields.require "namespace" Json.text?
    name := ← fields.require "name" Json.text?
    labels := ← fields.get "labels" SecretRecord.labels? .empty
    credentials := {
      username := ← fields.require "username" Json.text?
      password := ← fields.require "password" Json.text? } }

/-- Writes labels. -/
def SecretRecord.labelsToJson (labels : SortedMap String String) : Json :=
  .record (labels.entries.map fun e => (e.1, .ofText e.2))

/-- Writes a secret record. -/
def SecretRecord.toJson (record : SecretRecord) : Json := .record [
  ("namespace", .ofText record.ns),
  ("name", .ofText record.name),
  ("labels", labelsToJson record.labels),
  ("username", .ofText record.credentials.username),
  ("password", .ofText record.credentials.password)]

end TenantStorage
