import TenantStorage.Kubernetes.Store
import TenantStorage.Memory.Secrets
import TenantStorage.Proofs.Kubernetes.Codec
import TenantStorage.Proofs.Kubernetes.Paths

namespace TenantStorage.Kubernetes

/-!
# A store on an API server is a store in memory

A client that is alone with a server cannot tell its store from one in memory, which has been begun with what
the server holds.  Everything passes over the wire as JSON, the octets of an entry in base64 and the text in
UTF-8.

* `Server.answer`, `Server.run` — the server over the wire, and programs that run with it.
* `run_get`, `run_create`, `run_replace` — what each call comes to.
* `Mirrors` — a store in memory holds what the server holds; `Mirrors.step` — one call keeps it so.
* `transcript`, `transcript_of_mirrors` — calls one after another.
-/

/-! ### The server over the wire -/

/-- How a server words a refusal: a message and a reason. -/
abbrev Wording := Request → Nat → String × String

/-- What a server says about a call that it refuses with a code. -/
def Wording.status (wording : Wording) (request : Request) (code : Nat) : Status :=
  ⟨"Failure", (wording request code).1, (wording request code).2, code⟩

namespace Server

/-- The status of a reply that carries an object. -/
def successOf : Method → Nat
  | .post => 201
  | .get | .put => 200

/-- What arrives of a request, whose body is sent as JSON. -/
def arrived (request : Request) : Request :=
  { request with body := request.body.bind fun secret =>
      (Json.parse? secret.toJson.print).bind Secret.ofJson? }

/-- The reply to a request, and what the server keeps then.  Objects and refusals are sent as JSON. -/
def answer (wording : Wording) (request : Request) (server : Server) : Reply × Server :=
  match server.serve (arrived request) with
  | (.ok secret, server) => (.ofJson (successOf request.method) secret.toJson, server)
  | (.error code, server) => (.ofJson code (wording.status request code).toJson, server)

variable {server : Server} {request : Request} {wording : Wording}

/-- A request arrives as it was sent. -/
theorem arrived_eq (request : Request) : arrived request = request := by
  obtain ⟨method, url, body⟩ := request
  cases body with
  | none => rfl
  | some secret => rw [arrived, Option.bind_some, Secret.parse_toJson]

/-- A request is refused with the code of an error. -/
theorem code_of_serve {code : Nat} (h : (server.serve request).1 = .error code) :
    400 ≤ code ∧ code < 600 := by
  unfold serve at h
  split at h
  · split at h <;> cases h
    decide
  · dsimp only at h
    split at h <;> cases h
    decide
  · split at h
    · split at h <;> cases h
      decide
    · cases h
      decide
  · cases h
    decide
  · cases h
    decide

/-- Runs a program with the server. -/
def run {α : Type} (wording : Wording) (program : Program api α) (server : Server) : α × Server :=
  Program.run (S := api) (answer wording) program server

theorem run_bind {α β : Type} (program : Program api α) (next : α → Program api β) :
    run wording (program >>= next) server =
      run wording (next (run wording program server).1) (run wording program server).2 :=
  Program.run_bind (S := api) (answer wording) program next server

/-- Sending a request delivers what the server says to it. -/
theorem run_send : run wording (send (.ok request)) server =
    ((server.serve request).1.mapError fun code => .refused (wording.status request code),
      (server.serve request).2) := by
  have hreply : (answer wording request server).1.secret? =
      (server.serve request).1.mapError fun code => .refused (wording.status request code) := by
    rw [answer, arrived_eq]
    cases hserve : server.serve request with
    | mk verdict after =>
      cases verdict with
      | ok secret => exact secret?_answer (by cases request.method <;> decide) secret
      | error code =>
        have hcode : (server.serve request).1 = .error code := by rw [hserve]
        exact secret?_refuse (wording.status request code) (code_of_serve hcode)
  have hafter : (answer wording request server).2 = (server.serve request).2 := by
    rw [answer, arrived_eq]
    cases server.serve request with
    | mk verdict after => cases verdict <;> rfl
  rw [← hreply, ← hafter]
  rfl

/-- What the server holds of a Secret. -/
def recordAt (server : Server) (ns name : String) : Option SecretRecord :=
  (server.objects (secretPath ns name)).map fun object => object.1.toRecord ns name

end Server

variable {server : Server} {wording : Wording} {record : SecretRecord} {ns name : String}

theorem run_get (h : Addressable ns name) :
    Server.run wording (get ns name) server = (.ok (server.recordAt ns name), server) := by
  have hplace : Server.place (secretPath ns name) = secretPath ns name :=
    place_of_isPath (isPath_secretPath h.isSegment_ns h.isSegment_name)
  rw [get, readRequest_of_addressable h, Server.run_bind, Server.run_send]
  simp only [Server.serve, hplace]
  rw [Server.recordAt]
  cases hobject : server.objects (secretPath ns name) with
  | none => rfl
  | some object => rfl

theorem run_create (h : Addressable record.ns record.name) :
    Server.run wording (create record) server =
      match server.recordAt record.ns record.name with
      | some _ => (.error (.alreadyExists "Secret" (placeOf record)), server)
      | none => (.ok (), server.store (secretPath record.ns record.name) (.ofRecord record)) := by
  have hplace : Server.place (secretsPath record.ns ++ "?") = secretsPath record.ns := by
    rw [Server.place_append_query, place_of_isPath (isPath_secretsPath h.isSegment_ns)]
  have htarget : secretsPath record.ns ++ "/" ++ (Secret.ofRecord record).name.getD "" =
      secretPath record.ns record.name := rfl
  rw [create, createRequest_of_addressable h, Server.run_bind, Server.run_send]
  simp only [Server.serve, hplace, htarget]
  rw [Server.recordAt]
  cases hobject : server.objects (secretPath record.ns record.name) with
  | none => rfl
  | some object => rfl

theorem run_replace (h : Addressable record.ns record.name) :
    Server.run wording (replace record) server =
      match server.objects (secretPath record.ns record.name) with
      | some (_, version) => (.ok (), server.store (secretPath record.ns record.name)
          { Secret.ofRecord record with resourceVersion := some version.repr })
      | none => (.error (.notFound "Secret" (placeOf record)), server) := by
  have hpath := isPath_secretPath h.isSegment_ns h.isSegment_name
  rw [replace, readRequest_of_addressable h, Server.run_bind, Server.run_send]
  simp only [Server.serve, place_of_isPath hpath]
  cases hobject : server.objects (secretPath record.ns record.name) with
  | none => rfl
  | some object =>
    -- nobody writes between the two requests, so the version is still the one that was seen
    obtain ⟨secret, version⟩ := object
    have hplace : Server.place (secretPath record.ns record.name ++ "?") =
        secretPath record.ns record.name := by
      rw [Server.place_append_query, place_of_isPath hpath]
    simp only [Except.mapError]
    rw [replaceRequest_of_addressable h, Server.run_bind, Server.run_send]
    simp only [Server.serve, hplace, hobject, ↓reduceIte]
    rfl

/-! ### Refinement -/

/-- The answer to a call to a store on the server, and what the server keeps then. -/
def respond (wording : Wording) (call : SecretCall) (server : Server) :
    Except Failure call.Answer × Server :=
  Server.run wording (perform call) server

/-- A store in memory holds what the server holds. -/
def Mirrors (server : Server) (memory : MemorySecrets) : Prop :=
  ∀ ns name, Addressable ns name → memory.stored ns name = server.recordAt ns name

variable {memory memory' : MemorySecrets}

/-- A record that is stored in both is held by both. -/
theorem Mirrors.store (hmirrors : Mirrors server memory) (h : Addressable record.ns record.name)
    {secret : Secret} (hsecret : secret.toRecord record.ns record.name = record)
    (hrecords : memory'.records = memory.records.insert (MemorySecrets.keyOf record) record) :
    Mirrors (server.store (secretPath record.ns record.name) secret) memory' := by
  intro ns name haddress
  rw [MemorySecrets.stored, hrecords, Server.recordAt, Server.objects_store]
  by_cases hplace : secretPath ns name = secretPath record.ns record.name
  · obtain ⟨rfl, rfl⟩ := secretPath_inj haddress.isSegment_ns h.isSegment_ns hplace
    rw [if_pos rfl, Option.map_some, hsecret]
    exact SortedMap.find?_insert_self _ _ _
  · have hkey : (⟨ns, name⟩ : KeyPair) ≠ MemorySecrets.keyOf record := by
      rintro ⟨⟩
      exact hplace rfl
    rw [if_neg hplace, SortedMap.find?_insert_of_ne _ hkey]
    exact hmirrors ns name haddress

/-- Calls about Secrets that have a path. -/
def IsAddressable : SecretCall → Prop
  | .get ns name => Addressable ns name
  | .create record => Addressable record.ns record.name
  | .replace record => Addressable record.ns record.name

/-- **One call.**  Both stores answer alike, and hold the same afterwards. -/
theorem Mirrors.step (wording : Wording) (hmirrors : Mirrors server memory) {call : SecretCall}
    (h : IsAddressable call) :
    (respond wording call server).1 = (memory.perform call).1 ∧
      Mirrors (respond wording call server).2 (memory.perform call).2 := by
  rw [respond]
  cases call with
  | get ns name =>
    rw [perform, run_get h, MemorySecrets.perform, hmirrors ns name h]
    exact ⟨rfl, hmirrors⟩
  | create record =>
    have hstored := hmirrors record.ns record.name h
    rw [perform, run_create h, MemorySecrets.perform, SortedMap.contains_eq_isSome]
    rw [MemorySecrets.stored] at hstored
    rw [MemorySecrets.keyOf, hstored]
    cases hrecord : server.recordAt record.ns record.name with
    | some found => exact ⟨rfl, hmirrors⟩
    | none => exact ⟨rfl, hmirrors.store h (Secret.toRecord_ofRecord record) rfl⟩
  | replace record =>
    have hstored := hmirrors record.ns record.name h
    rw [perform, run_replace h, MemorySecrets.perform, SortedMap.contains_eq_isSome]
    rw [MemorySecrets.stored, Server.recordAt] at hstored
    rw [MemorySecrets.keyOf, hstored]
    cases hobject : server.objects (secretPath record.ns record.name) with
    | some object => exact ⟨rfl, hmirrors.store h (Secret.toRecord_ofRecord record) rfl⟩
    | none => exact ⟨rfl, hmirrors⟩

/-- Calls one after another: each with its result, and the state after them. -/
def transcript {σ : Type} (answer : (call : SecretCall) → σ → Except Failure call.Answer × σ) :
    List SecretCall → σ → List ((call : SecretCall) × Except Failure call.Answer) × σ
  | [], s => ([], s)
  | call :: rest, s =>
    let (result, s) := answer call s
    let (results, s) := transcript answer rest s
    (⟨call, result⟩ :: results, s)

/-- **A store on an API server refines the store in memory.**  From a store in memory that holds what the
    server holds, any calls about Secrets that have a path get the same results from both, and both hold
    the same in the end. -/
theorem transcript_of_mirrors (wording : Wording) (hmirrors : Mirrors server memory)
    {calls : List SecretCall} (hcalls : ∀ call ∈ calls, IsAddressable call) :
    (transcript (respond wording) calls server).1 = (transcript MemorySecrets.perform calls memory).1 ∧
      Mirrors (transcript (respond wording) calls server).2
        (transcript MemorySecrets.perform calls memory).2 := by
  -- by induction on the calls, each of which keeps the two stores alike
  induction calls generalizing server memory with
  | nil => exact ⟨rfl, hmirrors⟩
  | cons call rest ih =>
    obtain ⟨hcall, hrest⟩ := List.forall_mem_cons.1 hcalls
    obtain ⟨hresult, hafter⟩ := hmirrors.step wording hcall
    obtain ⟨hresults, hend⟩ := ih hafter hrest
    refine ⟨?_, hend⟩
    rw [transcript, transcript]
    dsimp only
    rw [hresult, hresults]

/-- A server with one Secret, whose user name is given as octets and whose password as text. -/
def seededServer : Server where
  objects place := if place = secretPath "storage" "tenant-a" then
    some ({ (default : Secret) with
      data := some (.ofList [(Secret.usernameKey, Utf8.encode "vsadmin")])
      stringData := some (.ofList [(Secret.passwordKey, "old")]) }, 7) else none
  latest := 7
  bounded place secret version h := by
    split at h
    · cases h
      exact Nat.le_refl 7
    · cases h

/-- A record without labels. -/
def plainRecord (name password : String) : SecretRecord :=
  ⟨"storage", name, .empty, ⟨"vsadmin", password⟩⟩

/-- The store in memory with the same secret. -/
def seededMemory : MemorySecrets := MemorySecrets.empty.withSecret (plainRecord "tenant-a" "old")

theorem mirrors_seeded : Mirrors seededServer seededMemory := by
  intro ns name haddress
  have hsegment : IsSegment "storage" := ⟨by decide, by decide⟩
  rw [Server.recordAt]
  by_cases hplace : secretPath ns name = secretPath "storage" "tenant-a"
  · obtain ⟨rfl, rfl⟩ := secretPath_inj haddress.isSegment_ns hsegment hplace
    decide +kernel
  · have hkey : (⟨ns, name⟩ : KeyPair) ≠ MemorySecrets.keyOf (plainRecord "tenant-a" "old") := by
      rintro ⟨⟩
      exact hplace rfl
    have hnone : seededServer.objects (secretPath ns name) = none := if_neg hplace
    rw [hnone]
    exact SortedMap.find?_insert_of_ne _ hkey _

/-- Every kind of call, made where there is a secret and where there is none. -/
def sampleCalls : List SecretCall :=
  [.get "storage" "tenant-a",
    .create (plainRecord "tenant-a" "new"),
    .replace (plainRecord "tenant-a" "new"),
    .get "storage" "tenant-a",
    .replace (plainRecord "tenant-b" "first"),
    .create (plainRecord "tenant-b" "first"),
    .get "storage" "tenant-b"]

theorem isAddressable_of_sampleCalls : ∀ call ∈ sampleCalls, IsAddressable call := by
  have hone : Addressable "storage" "tenant-a" :=
    ⟨⟨by decide, by decide⟩, ⟨by decide, by decide⟩, by decide⟩
  have htwo : Addressable "storage" "tenant-b" :=
    ⟨⟨by decide, by decide⟩, ⟨by decide, by decide⟩, by decide⟩
  simp only [sampleCalls, List.forall_mem_cons]
  exact ⟨hone, hone, hone, hone, htwo, htwo, htwo, by simp⟩

/-- A server that gives no reasons. -/
def shortWording : Wording := fun _ _ => ("refused", "")

/-- The two stores answer the calls as they should, and agree in the end. -/
theorem transcript_of_seeded :
    Mirrors seededServer seededMemory ∧ (∀ call ∈ sampleCalls, IsAddressable call) ∧
      (transcript (respond shortWording) sampleCalls seededServer).1 =
        [⟨.get "storage" "tenant-a", .ok (some (plainRecord "tenant-a" "old"))⟩,
          ⟨.create (plainRecord "tenant-a" "new"), .error (.alreadyExists "Secret" "storage/tenant-a")⟩,
          ⟨.replace (plainRecord "tenant-a" "new"), .ok ()⟩,
          ⟨.get "storage" "tenant-a", .ok (some (plainRecord "tenant-a" "new"))⟩,
          ⟨.replace (plainRecord "tenant-b" "first"), .error (.notFound "Secret" "storage/tenant-b")⟩,
          ⟨.create (plainRecord "tenant-b" "first"), .ok ()⟩,
          ⟨.get "storage" "tenant-b", .ok (some (plainRecord "tenant-b" "first"))⟩] ∧
      Mirrors (transcript (respond shortWording) sampleCalls seededServer).2
        (transcript MemorySecrets.perform sampleCalls seededMemory).2 := by
  obtain ⟨hresults, hend⟩ := transcript_of_mirrors shortWording mirrors_seeded
    isAddressable_of_sampleCalls
  exact ⟨mirrors_seeded, isAddressable_of_sampleCalls, hresults.trans rfl, hend⟩

end TenantStorage.Kubernetes
