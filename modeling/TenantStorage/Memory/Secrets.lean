import TenantStorage.Action

/-!
# A store of secrets in memory

Secrets are kept by namespace and name.  A secret is created only where there is none, and replaced only where
there is one.

* `MemorySecrets` — the secrets, the number of reads, and the numbers of successful writes.
* `MemorySecrets.perform` — the answer to a call, and the state after it.
-/

namespace TenantStorage

/-- A store of secrets in memory. -/
structure MemorySecrets where
  records : SortedMap KeyPair SecretRecord
  gets : Nat
  creates : Nat
  replaces : Nat
deriving DecidableEq

namespace MemorySecrets

/-- The store without secrets. -/
def empty : MemorySecrets := ⟨.empty, 0, 0, 0⟩

instance : Inhabited MemorySecrets := ⟨empty⟩

/-- Where a secret is kept. -/
def keyOf (record : SecretRecord) : KeyPair := ⟨record.ns, record.name⟩

/-- A secret that is there already. -/
def withSecret (s : MemorySecrets) (record : SecretRecord) : MemorySecrets :=
  { s with records := s.records.insert (keyOf record) record }

/-- The secret with a namespace and a name. -/
def stored (s : MemorySecrets) (ns name : String) : Option SecretRecord := s.records.find? ⟨ns, name⟩

/-- A secret's place in failures. -/
def placeOf (record : SecretRecord) : String := record.ns ++ "/" ++ record.name

/-- The answer to a call, and the state after it. -/
def perform : (call : SecretCall) → MemorySecrets → Except Failure call.Answer × MemorySecrets
  | .get ns name, s => (.ok (s.stored ns name), { s with gets := s.gets + 1 })
  | .create record, s =>
    if s.records.contains (keyOf record) then
      (.error (.alreadyExists "Secret" (placeOf record)), s)
    else
      (.ok (), { s with
        records := s.records.insert (keyOf record) record
        creates := s.creates + 1 })
  | .replace record, s =>
    if s.records.contains (keyOf record) then
      (.ok (), { s with
        records := s.records.insert (keyOf record) record
        replaces := s.replaces + 1 })
    else (.error (.notFound "Secret" (placeOf record)), s)

end MemorySecrets

end TenantStorage
