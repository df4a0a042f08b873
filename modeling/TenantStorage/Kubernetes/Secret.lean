import TenantStorage.Account
import TenantStorage.Json.Limits
import TenantStorage.Octets.Base64
import TenantStorage.Octets.Utf8
import TenantStorage.Timestamp

/-!
# Secrets as Kubernetes objects

Credentials are kept in a `core/v1` Secret under the keys `username` and `password`.

* `Kubernetes.Secret` — the part of the object that the library reads or writes.
* `Secret.ofRecord`, `Secret.toRecord` — from a record to an object and back.
* `Secret.toJson`, `Secret.ofJson?` — the JSON form.  All members may be missing or `null`; of a repeated
  member the last counts; members of a known type must have it, unknown members do not matter.
-/

namespace TenantStorage.Kubernetes

/-- A Secret object. -/
structure Secret where
  name : Option String
  ns : Option String
  labels : Option (SortedMap String String)
  /-- The version that a conditional write refers to. -/
  resourceVersion : Option String
  type : Option String
  data : Option (SortedMap String (List UInt8))
  /-- Entries given as text, which a reader sees only where `data` has no entry. -/
  stringData : Option (SortedMap String String)
deriving DecidableEq

namespace Secret

instance : Inhabited Secret := ⟨⟨none, none, none, none, none, none, none⟩⟩

/-! ### Records -/

/-- The key of the user name. -/
def usernameKey : String := "username"

/-- The key of the password. -/
def passwordKey : String := "password"

/-- The object of a record. -/
def ofRecord (record : SecretRecord) : Secret where
  name := some record.name
  ns := some record.ns
  labels := some record.labels
  resourceVersion := none
  type := some "Opaque"
  data := some (.ofList [
    (usernameKey, Utf8.encode record.credentials.username),
    (passwordKey, Utf8.encode record.credentials.password)])
  stringData := none

/-- An entry as text, from the octets or, where there are none, from the text entries; a missing entry is
    the empty text. -/
def entry (secret : Secret) (key : String) : String :=
  match secret.data.bind (·.find? key) with
  | some octets => Utf8.decodeLossy octets
  | none => (secret.stringData.bind (·.find? key)).getD ""

/-- The record that an object holds under a namespace and a name. -/
def toRecord (secret : Secret) (ns name : String) : SecretRecord where
  ns := ns
  name := name
  labels := secret.labels.getD .empty
  credentials := ⟨secret.entry usernameKey, secret.entry passwordKey⟩

/-! ### Writing -/

/-- A map of texts as an object. -/
def textsToJson (m : SortedMap String String) : Json :=
  .record (m.entries.map fun e => (e.1, .ofText e.2))

/-- A map of octets as an object. -/
def octetsToJson (m : SortedMap String (List UInt8)) : Json :=
  .record (m.entries.map fun e => (e.1, .ofText (Base64.encode e.2)))

/-- A member, unless its value is missing. -/
def present {α : Type} (key : String) (write : α → Json) (value : Option α) : List (String × Json) :=
  (value.map fun v => (key, write v)).toList

/-- The JSON form. -/
def toJson (secret : Secret) : Json := .record (
  [("apiVersion", .ofText "v1"), ("kind", .ofText "Secret")] ++
  present "data" octetsToJson secret.data ++
  [("metadata", .record (
    present "labels" textsToJson secret.labels ++
    present "name" .ofText secret.name ++
    present "namespace" .ofText secret.ns ++
    present "resourceVersion" .ofText secret.resourceVersion))] ++
  present "stringData" textsToJson secret.stringData ++
  present "type" .ofText secret.type)

/-! ### Reading -/

/-- The members of an object whose keys are all text. -/
def members? : Json → Option (List (String × Json))
  | .object members => members.mapM fun member => member.1.map fun key => (key, member.2)
  | _ => none

/-- A map whose values are read by `read`. -/
def mapOf? {α : Type} (read : Json → Option α) (value : Json) : Option (SortedMap String α) := do
  let pairs ← (← members? value).mapM fun member => (read member.2).map fun v => (member.1, v)
  return .ofList pairs

/-- Octets in base64; `null` stands for none. -/
def octets? : Json → Option (List UInt8)
  | .null => some []
  | value => value.text?.bind Base64.decode?

/-- A value, or `null` for its absence. -/
def orNull? {α : Type} (read : Json → Option α) : Json → Option (Option α)
  | .null => some none
  | value => (read value).map some

/-- The value of a member, which may be missing or `null`.  Each occurrence has to be readable, and the last
    one counts. -/
def lookup? {α : Type} (members : List (String × Json)) (key : String) (read : Json → Option α) :
    Option (Option α) := do
  let found ← (members.filter (·.1 == key)).mapM fun member => orNull? read member.2
  return found.getLast?.join

/-- Whether a member is missing or has the given text. -/
def isMarked (members : List (String × Json)) (key mark : String) : Bool :=
  (members.filter (·.1 == key)).all fun member => member.2.text? == some mark

/-- A number of 64 bits with sign. -/
def int64? : Json → Option Int
  | .number ⟨false, n, ""⟩ => if n < Int64.size / 2 then some n else none
  | .number ⟨true, n, ""⟩ => if 0 < n ∧ n ≤ Int64.size / 2 then some (-n) else none
  | _ => none

/-- Whether a member is missing, `null`, or readable. -/
def isTyped {α : Type} (members : List (String × Json)) (key : String) (read : Json → Option α) : Bool :=
  (lookup? members key read).isSome

/-- A point in time. -/
def timestamp? (value : Json) : Option Timestamp := value.text?.bind Timestamp.parse?

/-- The levels that are left to a set of fields, which stands inside a record, a list, the metadata and the
    Secret. -/
def fieldLevels : Nat := Json.deepest - 4

/-- Whether a value is a record of who manages which fields. -/
def isManagedFields (value : Json) : Bool :=
  (members? value).any fun members =>
    ["apiVersion", "fieldsType", "manager", "operation", "subresource"].all
      (isTyped members · Json.text?) &&
    isTyped members "fieldsV1" (Option.guard (Json.fits fieldLevels ·)) &&
    isTyped members "time" timestamp?

/-- Whether a value names an owner.  A missing part of the name counts as empty. -/
def isOwnerReference (value : Json) : Bool :=
  (members? value).any fun members =>
    ["apiVersion", "kind", "name", "uid"].all (isTyped members · Json.text?) &&
    ["blockOwnerDeletion", "controller"].all (isTyped members · Json.bool?)

/-- Whether the members that nothing is read from have their types. -/
def metadataIsTyped (members : List (String × Json)) : Bool :=
  ["generateName", "selfLink", "uid"].all (isTyped members · Json.text?) &&
    ["deletionGracePeriodSeconds", "generation"].all (isTyped members · int64?) &&
    ["creationTimestamp", "deletionTimestamp"].all (isTyped members · timestamp?) &&
    isTyped members "annotations" (mapOf? Json.text?) &&
    isTyped members "finalizers" (Json.listOf? Json.text?) &&
    isTyped members "managedFields" (Json.listOf? (Option.guard isManagedFields ·)) &&
    isTyped members "ownerReferences" (Json.listOf? (Option.guard isOwnerReference ·))

/-- Reads the metadata into a Secret without entries. -/
def metadata? (value : Json) : Option Secret := do
  let members ← members? value
  let labels ← lookup? members "labels" (mapOf? Json.text?)
  let name ← lookup? members "name" Json.text?
  let ns ← lookup? members "namespace" Json.text?
  let resourceVersion ← lookup? members "resourceVersion" Json.text?
  if !metadataIsTyped members then none
  return { (default : Secret) with name, ns, labels, resourceVersion }

/-- Reads the JSON form. -/
def ofJson? (value : Json) : Option Secret := do
  let members ← members? value
  if !isMarked members "apiVersion" "v1" || !isMarked members "kind" "Secret" then none
  let data ← lookup? members "data" (mapOf? octets?)
  let metadata ← lookup? members "metadata" metadata?
  let stringData ← lookup? members "stringData" (mapOf? Json.text?)
  let type ← lookup? members "type" Json.text?
  if !isTyped members "immutable" Json.bool? then none
  return { metadata.getD default with type, data, stringData }

end Secret

end TenantStorage.Kubernetes
