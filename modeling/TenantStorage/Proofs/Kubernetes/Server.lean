import TenantStorage.Kubernetes.Store

namespace TenantStorage.Kubernetes

/-!
# An API server that counts versions

The server keeps Secrets by place, each with the version at which it was stored.  It creates only where there is
nothing, and replaces only what still has the version that the request refers to.

* `Server.place` — the place that a URL names; `place_ofText`, `place_append_query` — it does not depend on
  queries.
* `Server` — the objects and the latest version.
* `Server.store`, `Server.serve` — a write, and the answer to a request.
* `passwordAt_serve_post`, `passwordAt_serve_put` — what a request makes of a password that is stored.
-/

namespace Server

/-! ### Places -/

/-- Characters that end the path in a URL. -/
def endsPath (c : Char) : Bool := c == '?' || c == '#'

/-- The place that a URL names: the path before a query or a fragment. -/
def place (url : String) : String := String.ofList (url.toList.takeWhile fun c => !endsPath c)

/-- A query does not belong to the place. -/
theorem place_append_query (text : String) : place (text ++ "?") = place text := by
  have htake (cs : List Char) : (cs ++ ['?']).takeWhile (fun c => !endsPath c) =
      cs.takeWhile fun c => !endsPath c := by
    induction cs with
    | nil => rfl
    | cons c rest ih =>
      rw [List.cons_append, List.takeWhile_cons, List.takeWhile_cons, ih]
  rw [place, place, String.toList_append]
  exact congrArg String.ofList (htake text.toList)

/-- The path that a text makes stops where the place stops. -/
theorem takeWhile_charsOf? {cs chars : List Char} (h : Path.charsOf? cs = some chars) :
    chars.takeWhile (fun c => !endsPath c) = cs.takeWhile fun c => !endsPath c := by
  induction cs generalizing chars with
  | nil =>
    cases h
    rfl
  | cons c rest ih =>
    unfold Path.charsOf? at h
    split at h
    · rename_i hnil
      cases hnil
    · -- a fragment is cut off
      rename_i hfragment
      cases hfragment
      cases h
      rfl
    · -- a query is kept, behind its question mark
      rename_i hquery
      cases hquery
      obtain ⟨query, -, rfl⟩ := Option.map_eq_some_iff.1 h
      rfl
    · rename_i hcons
      cases hcons
      split at h
      · obtain ⟨tail, htail, rfl⟩ := Option.map_eq_some_iff.1 h
        rw [List.takeWhile_cons, List.takeWhile_cons, ih htail]
      · cases h

/-- The place of a text is that of the path that it makes. -/
theorem place_ofText {text url : String} (h : Path.ofText text = .ok url) : place url = place text := by
  rw [Path.ofText] at h
  split at h
  · cases h
  · split at h
    · rename_i chars hchars
      cases h
      rw [place, place, String.toList_ofList, takeWhile_charsOf? hchars]
    · cases h

end Server

/-! ### The server -/

/-- The Secrets of a cluster by their places, each with its version. -/
structure Server where
  objects : String → Option (Secret × Nat)
  /-- The version that was given last. -/
  latest : Nat
  bounded : ∀ place secret version, objects place = some (secret, version) → version ≤ latest

namespace Server

/-- Stores an object under a new version. -/
def store (server : Server) (place : String) (secret : Secret) : Server where
  objects other := if other = place then some (secret, server.latest + 1) else server.objects other
  latest := server.latest + 1
  bounded other found version h := by
    split at h
    · cases h
      exact Nat.le_refl _
    · exact Nat.le_succ_of_le (server.bounded other found version h)

theorem objects_store (server : Server) (place : String) (secret : Secret) (other : String) :
    (server.store place secret).objects other =
      if other = place then some (secret, server.latest + 1) else server.objects other := rfl

/-- What the server says to a request, which is an object or the code of a refusal, and what it keeps then. -/
def serve (request : Request) (server : Server) : Except Nat Secret × Server :=
  match request.method, request.body with
  | .get, _ =>
    match server.objects (place request.url) with
    | some (secret, version) => (.ok { secret with resourceVersion := some version.repr }, server)
    | none => (.error 404, server)
  | .post, some secret =>
    let target := place request.url ++ "/" ++ secret.name.getD ""
    match server.objects target with
    | some _ => (.error 409, server)
    | none =>
      (.ok { secret with resourceVersion := some (server.latest + 1).repr }, server.store target secret)
  | .put, some secret =>
    match server.objects (place request.url) with
    | some (_, version) =>
      if secret.resourceVersion = some version.repr then
        (.ok { secret with resourceVersion := some (server.latest + 1).repr },
          server.store (place request.url) secret)
      else (.error 409, server)
    | none => (.error 404, server)
  | .post, none | .put, none => (.error 400, server)

/-- The password that is stored at a place. -/
def passwordAt (server : Server) (place : String) : Option String :=
  (server.objects place).map fun object => object.1.entry Secret.passwordKey

/-- The version of what is stored at a place. -/
def versionAt (server : Server) (place : String) : Option Nat := (server.objects place).map (·.2)

variable {server : Server} {place : String} {request : Request}

@[simp] theorem passwordAt_store_self (server : Server) (place : String) (secret : Secret) :
    (server.store place secret).passwordAt place = some (secret.entry Secret.passwordKey) := by
  simp [passwordAt, store]

@[simp] theorem versionAt_store_self (server : Server) (place : String) (secret : Secret) :
    (server.store place secret).versionAt place = some (server.latest + 1) := by
  simp [versionAt, store]

theorem passwordAt_store_of_ne (secret : Secret) {place other : String} (h : other ≠ place) :
    (server.store place secret).passwordAt other = server.passwordAt other := by
  simp [passwordAt, store, h]

theorem versionAt_le {version : Nat} (h : server.versionAt place = some version) :
    version ≤ server.latest := by
  obtain ⟨⟨secret, found⟩, hobject, rfl⟩ := Option.map_eq_some_iff.1 h
  exact server.bounded place secret found hobject

/-- A creation leaves what is stored alone. -/
theorem passwordAt_serve_post {password : String} (hmethod : request.method = .post)
    (h : server.passwordAt place = some password) :
    (server.serve request).2.passwordAt place = some password := by
  obtain ⟨object, hobject, -⟩ := Option.map_eq_some_iff.1 h
  rw [serve, hmethod]
  cases request.body with
  | none => exact h
  | some secret =>
    -- where there is an object the creation is refused, so it is made elsewhere
    by_cases htarget : Server.place request.url ++ "/" ++ secret.name.getD "" = place
    · simp only [htarget, hobject]
      exact h
    · dsimp only
      split
      · exact h
      · rw [passwordAt_store_of_ne secret (Ne.symm htarget)]
        exact h

/-- A replacement has the effect of its body exactly when it refers to the version that is stored. -/
theorem passwordAt_serve_put {secret : Secret} {version : Nat} (hmethod : request.method = .put)
    (hbody : request.body = some secret) (h : server.versionAt (Server.place request.url) = some version) :
    (server.serve request).2.passwordAt (Server.place request.url) =
      if secret.resourceVersion = some version.repr then some (secret.entry Secret.passwordKey)
      else server.passwordAt (Server.place request.url) := by
  obtain ⟨⟨found, _⟩, hobject, rfl⟩ := Option.map_eq_some_iff.1 h
  rw [serve, hmethod, hbody]
  simp only [hobject]
  split
  · exact passwordAt_store_self _ _ _
  · rfl

end Server

end TenantStorage.Kubernetes
