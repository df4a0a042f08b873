import Mathlib
import TenantStorage.Proofs.Kubernetes.Server
import TenantStorage.Proofs.Provision.Asks

namespace TenantStorage.Kubernetes

open Provision

/-!
# A reconciliation and another writer

A reconciliation that keeps its secret on an API server decides by what its first request shows, and overwrites
by what a later one shows.  Another writer may store a password in the same place at any time.  What it
stores after the reconciliation has looked for the version stays; what it stores before is overwritten.

* `traffic`, `onServer` — requests and all other actions as operations, and an engine on them.
* `GuardedWrite` — histories in which every replacement follows a look that gave it the version.
* `Encounter` — a run, the server and the other writer; `Encounter.next?` is one step.
* `Encounter.Current` — whether the version that the run has seen is still the one that is stored.
* `keepsPassword_iff` — when a write leaves the password that it meets.
-/

/-! ### Requests among the other actions -/

/-- A request to the server, or any other action of the engine. -/
inductive Exchange where
  | request (request : Request)
  | action (action : Action)
deriving DecidableEq

/-- Requests and other actions as operations of programs. -/
abbrev traffic : Signature where
  Op := Exchange
  Answer
    | .request _ => Reply
    | .action action => action.Answer

/-- Sends a request. -/
def ask (request : Request) : Program traffic Reply := Program.perform (S := traffic) (.request request)

/-- The engine with its secrets on the server: calls to the store of secrets become requests. -/
def onServer : (action : Action) → Program traffic action.Answer
  | .call (.secrets call) => (perform call).expand ask
  | action => Program.perform (S := traffic) (.action action)

/-- A reconciliation with its secret on the server. -/
def reconciliation (engine : Settings.Engine) (project : String) (svm : Svm) :
    Program traffic (Except Failure CredentialOutcome) :=
  Program.expand (S := actions) onServer (reconcile engine project svm).run

/-! ### Replacements -/

/-- The version that a run has seen at a place, when its last step was to look there. -/
def seenVersion? (place : String) : List (Program.Reply traffic) → Option (Option String)
  | ⟨.request request, reply⟩ :: _ =>
    if request.method = .get ∧ Server.place request.url = place then
      match Reply.secret? reply with
      | .ok secret => some secret.resourceVersion
      | .error _ => none
    else none
  | _ => none

/-- Histories whose last step, if it was a replacement, was one at a place with the version that the step
    before had seen there. -/
def GuardedWrite (place : String) : List (Program.Reply traffic) → Prop
  | ⟨.request request, _⟩ :: history => request.method = .put → Server.place request.url = place ∧
    ∃ secret, request.body = some secret ∧ seenVersion? place history = some secret.resourceVersion
  | _ => True

/-- The promise that every history is a `GuardedWrite`. -/
def guardedly (place : String) : Program.Conduct traffic (List (Program.Reply traffic)) :=
  fun _ _ _ history' => GuardedWrite place history'

variable {place : String} {history : List (Program.Reply traffic)}

/-- Sending a request that is no replacement, or one that refers to what was just seen. -/
theorem guarded_send {α : Type} {request : Except Fault Request}
    {next : Except Fault Secret → Program api α}
    {post : α → List (Program.Reply traffic) → Prop}
    (hrequest : ∀ r, request = .ok r → ∀ reply, GuardedWrite place (⟨.request r, reply⟩ :: history) ∧
      ((next reply.secret?).expand ask).Ensures Program.recorded (guardedly place) post
        (⟨.request r, reply⟩ :: history))
    (herror : ∀ fault, request = .error fault →
      ((next (.error fault)).expand ask).Ensures Program.recorded (guardedly place) post history) :
    ((send request >>= next).expand ask).Ensures Program.recorded (guardedly place) post history := by
  cases request with
  | error fault => exact herror fault rfl
  | ok r =>
    rintro reply _ rfl
    exact hrequest r rfl reply

/-- Sending the last request of a call. -/
theorem guarded_last {α : Type} {request : Except Fault Request}
    {next : Except Fault Secret → Program api α}
    (hrequest : ∀ r, request = .ok r → ∀ reply, GuardedWrite place (⟨.request r, reply⟩ :: history))
    (hnext : ∀ told, ∃ value, next told = .done value) :
    ((send request >>= next).expand ask).Ensures Program.recorded (guardedly place) (fun _ _ => True)
      history := by
  have hdone (told : Except Fault Secret) (history' : List (Program.Reply traffic)) :
      ((next told).expand ask).Ensures Program.recorded (guardedly place) (fun _ _ => True) history' := by
    obtain ⟨value, hvalue⟩ := hnext told
    rw [hvalue]
    trivial
  exact guarded_send (fun r hr reply => ⟨hrequest r hr reply, hdone _ _⟩) fun fault _ => hdone _ _

/-- A request that could be written has the path of its text. -/
theorem path_of_map {text : String} {write : String → Request} {request : Request}
    (h : (Path.ofText text).map write = .ok request) :
    ∃ url, Server.place url = Server.place text ∧ request = write url := by
  cases hpath : Path.ofText text with
  | error fault =>
    rw [hpath] at h
    cases h
  | ok url =>
    rw [hpath] at h
    cases h
    exact ⟨url, Server.place_ofText hpath, rfl⟩

/-- The request for an object is one at its place. -/
theorem place_readRequest {ns name : String} {request : Request} (h : readRequest ns name = .ok request) :
    request.method = .get ∧ Server.place request.url = Server.place (secretPath ns name) := by
  obtain ⟨url, hplace, rfl⟩ := path_of_map h
  exact ⟨rfl, hplace⟩

/-- The request that replaces an object is one at its place. -/
theorem place_replaceRequest {ns name : String} {secret : Secret} {request : Request}
    (h : replaceRequest ns name secret = .ok request) :
    Server.place request.url = Server.place (secretPath ns name) ∧ request.body = some secret := by
  obtain ⟨url, hplace, rfl⟩ := path_of_map h
  exact ⟨hplace.trans (Server.place_append_query _), rfl⟩

theorem method_createRequest {ns : String} {secret : Secret} {request : Request}
    (h : createRequest ns secret = .ok request) : request.method = .post := by
  obtain ⟨url, -, rfl⟩ := path_of_map h
  rfl

/-- What is no replacement needs no guard. -/
theorem GuardedWrite.of_ne {request : Request} {reply : Reply} (h : request.method ≠ .put) :
    GuardedWrite place (⟨.request request, reply⟩ :: history) :=
  fun hput => absurd hput h

theorem guarded_get (ns name : String) :
    ((get ns name).expand ask).Ensures Program.recorded (guardedly place) (fun _ _ => True) history := by
  refine guarded_last (fun request hrequest reply => .of_ne ?_) fun told => ?_
  · rw [(place_readRequest hrequest).1]
    exact Method.noConfusion
  · cases told with
    | ok secret => exact ⟨_, rfl⟩
    | error fault =>
      dsimp only
      split <;> exact ⟨_, rfl⟩

theorem guarded_create (record : SecretRecord) :
    ((create record).expand ask).Ensures Program.recorded (guardedly place) (fun _ _ => True) history := by
  refine guarded_last (fun request hrequest reply => .of_ne ?_) fun told => ?_
  · rw [method_createRequest hrequest]
    exact Method.noConfusion
  · cases told with
    | ok secret => exact ⟨_, rfl⟩
    | error fault =>
      dsimp only
      split <;> exact ⟨_, rfl⟩

/-- A replacement refers to the version that was seen right before it. -/
theorem guarded_replace {record : SecretRecord}
    (hplace : Server.place (secretPath record.ns record.name) = place) :
    ((replace record).expand ask).Ensures Program.recorded (guardedly place) (fun _ _ => True) history := by
  -- the first request looks for the version, and the second one is built from what it shows
  refine guarded_send (fun request hrequest reply => ?_) fun fault _ => ?_
  · obtain ⟨hget, hurl⟩ := place_readRequest hrequest
    refine ⟨.of_ne (by rw [hget]; exact Method.noConfusion), ?_⟩
    cases hreply : reply.secret? with
    | error fault =>
      dsimp only
      split <;> trivial
    | ok current =>
      refine guarded_last (fun write hwrite reply' _ => ?_) fun told => ?_
      · obtain ⟨hurl', hbody⟩ := place_replaceRequest hwrite
        refine ⟨hurl'.trans hplace, _, hbody, ?_⟩
        have hseen : request.method = .get ∧ Server.place request.url = place :=
          ⟨hget, hurl.trans hplace⟩
        simp only [seenVersion?, hseen, and_self, if_true, hreply]
      · cases told <;> exact ⟨_, rfl⟩
  · dsimp only
    split <;> trivial

/-- The replacements that an action makes are at a place. -/
def ReplacesAt (place : String) (action : Action) : Prop :=
  ∀ record, action = .call (.secrets (.replace record)) →
    Server.place (secretPath record.ns record.name) = place

theorem guarded_onServer {action : Action} (h : ReplacesAt place action) :
    (onServer action).Ensures Program.recorded (guardedly place) (fun _ _ => True) history := by
  cases action with
  | call c =>
    cases c with
    | secrets call =>
      cases call with
      | get ns name => exact guarded_get ns name
      | create record => exact guarded_create record
      | replace record => exact guarded_replace (h record rfl)
    | controller call =>
      rintro answer _ rfl
      exact ⟨trivial, trivial⟩
  | watch _ | pause _ | cancelled | password | count _ =>
    rintro answer _ rfl
    exact ⟨trivial, trivial⟩

/-- An engine whose replacements are at a place has guarded them all. -/
theorem guarded_expand {α : Type} {p : Engine α} (h : Program.Asks (S := actions) (ReplacesAt place) p) :
    (Program.expand (S := actions) onServer p).Ensures Program.recorded (guardedly place)
      (fun _ _ => True) history := by
  -- by induction on the tree of the engine, each node of which becomes a program of requests
  induction p generalizing history with
  | done value => trivial
  | ask action resume ih =>
    refine (Program.ensures_bind (onServer action) _ history).2 ?_
    exact (guarded_onServer h.1).imp fun answer history' _ => ih answer (h.2 answer)

/-- The place of a project's secret. -/
def secretPlace (engine : Settings.Engine) (project : String) : String :=
  Server.place (secretPath engine.secretNamespace (engine.secretName project))

theorem replacesAt_reconcile (engine : Settings.Engine) (project : String) (svm : Svm) :
    Program.Asks (S := actions) (ReplacesAt (secretPlace engine project))
      (reconcile engine project svm).run := by
  refine asks_reconcile svm (by rintro _ ⟨⟩) (fun _ _ => by rintro _ ⟨⟩) (fun _ _ => by rintro _ ⟨⟩)
    (fun _ _ _ => by rintro _ ⟨⟩) (fun credentials => ⟨by rintro _ ⟨⟩, ?_⟩) (by rintro _ ⟨⟩)
    (by rintro _ ⟨⟩)
  -- the only secret that is replaced is the project's
  rintro _ ⟨⟩
  rfl

theorem guarded_reconciliation (engine : Settings.Engine) (project : String) (svm : Svm) :
    (reconciliation engine project svm).Disciplined (GuardedWrite (secretPlace engine project)) [] :=
  guarded_expand (replacesAt_reconcile engine project svm)

/-! ### Encounters -/

/-- What becomes of a request. -/
inductive Fate where
  | served
  /-- The request is not carried out. -/
  | failed
  /-- The request is carried out, and its reply does not arrive. -/
  | lost
deriving DecidableEq

/-- Whether a reply may come back for a request, when the server says `verdict` to it. -/
def Fate.admits (verdict : Except Nat Secret) (reply : Reply) : Fate → Bool
  | served =>
    match verdict, reply.secret? with
    | .ok secret, .ok told => secret == told
    | .error code, .error fault => fault.hasCode code
    | _, _ => false
  | failed | lost => !reply.secret?.isOk

/-- What the server keeps after a request. -/
def Fate.after (request : Request) (server : Server) : Fate → Server
  | served | lost => (server.serve request).2
  | failed => server

/-- A run on a server that another writer uses, too. -/
structure Encounter (α : Type) where
  program : Program traffic α
  server : Server
  /-- The steps of the run, the newest first. -/
  history : List (Program.Reply traffic)
  /-- Whether the other writer has stored something since the last step of the run. -/
  disturbed : Bool

/-- One thing that happens. -/
inductive Happening where
  /-- The other writer stores an object. -/
  | theirs (secret : Secret)
  /-- The run sends its next request. -/
  | request (fate : Fate) (reply : Reply)
  /-- The run takes another action. -/
  | action (answers : (action : Action) → action.Answer)

namespace Encounter

variable {α : Type}

/-- The request that the run is about to send. -/
def request? (e : Encounter α) : Option Request :=
  match e.program with
  | .ask (.request request) _ => some request
  | _ => none

/-- The run takes a step. -/
def advance (e : Encounter α) (reply : Program.Reply traffic) (rest : Program traffic α) (server : Server) :
    Encounter α :=
  { program := rest, server, history := reply :: e.history, disturbed := false }

/-- What comes of a happening, if it can happen.  The other writer stores passwords that are not empty, at one
    place. -/
def next? (place : String) (e : Encounter α) : Happening → Option (Encounter α)
  | .theirs secret =>
    if secret.entry Secret.passwordKey = "" then none
    else some { e with server := e.server.store place secret, disturbed := true }
  | .request fate reply =>
    match e.program with
    | .ask (.request request) resume =>
      if fate.admits (e.server.serve request).1 reply then
        some (e.advance ⟨.request request, reply⟩ (resume reply) (fate.after request e.server))
      else none
    | _ => none
  | .action answers =>
    match e.program with
    | .ask (.action action) resume =>
      some (e.advance ⟨.action action, answers action⟩ (resume (answers action)) e.server)
    | _ => none

/-- What comes of happenings one after another. -/
def play? (place : String) (happenings : List Happening) (e : Encounter α) : Option (Encounter α) :=
  happenings.foldlM (next? place) e

/-- A happening is a write of the other writer, a request with its reply, or another action. -/
theorem next?_cases {e e' : Encounter α} {happening : Happening} (h : e.next? place happening = some e') :
    (∃ secret, e' = { e with server := e.server.store place secret, disturbed := true }) ∨
      (∃ request resume, ∃ fate : Fate, ∃ reply, e.program = .ask (.request request) resume ∧
        fate.admits (e.server.serve request).1 reply = true ∧
        e' = e.advance ⟨.request request, reply⟩ (resume reply) (fate.after request e.server)) ∨
      ∃ action resume answer, e.program = .ask (.action action) resume ∧
        e' = e.advance ⟨.action action, answer⟩ (resume answer) e.server := by
  cases happening with
  | theirs secret =>
    simp only [next?] at h
    split at h
    · cases h
    · exact .inl ⟨secret, (Option.some.inj h).symm⟩
  | request fate reply =>
    simp only [next?] at h
    split at h
    · rename_i request resume hprogram
      split at h
      · rename_i hadmits
        exact .inr (.inl ⟨request, resume, fate, reply, hprogram, hadmits, (Option.some.inj h).symm⟩)
      · cases h
    · cases h
  | action answers =>
    simp only [next?] at h
    split at h
    · rename_i action resume hprogram
      exact .inr (.inr ⟨action, resume, answers action, hprogram, (Option.some.inj h).symm⟩)
    · cases h

/-- What every happening keeps is kept. -/
theorem play?_invariant {invariant : Encounter α → Prop}
    (hstep : ∀ e happening e', invariant e → e.next? place happening = some e' → invariant e')
    {happenings : List Happening} {e e' : Encounter α} (h : e.play? place happenings = some e')
    (hstart : invariant e) : invariant e' := by
  induction happenings generalizing e with
  | nil =>
    cases h
    exact hstart
  | cons happening rest ih =>
    rw [play?, List.foldlM_cons] at h
    obtain ⟨middle, hnext, hrest⟩ := Option.bind_eq_some_iff.1 h
    exact ih hrest (hstep e happening middle hstart hnext)

/-- A version that was seen in the last step is that of what is stored, until the other writer stores something
    under a later one. -/
def Current (place : String) (e : Encounter α) : Prop :=
  ∀ version, seenVersion? place e.history = some version →
    ∃ n, version = some n.repr ∧ n ≤ e.server.latest ∧
      ∀ current, e.server.versionAt place = some current →
        if e.disturbed then n < current else current = n

/-- A look that succeeded has seen the version of what is stored, and has changed nothing. -/
theorem seen_of_admits {request : Request} {server : Server} {fate : Fate} {reply : Reply}
    {version : Option String} (hadmits : fate.admits (server.serve request).1 reply = true)
    (hseen : seenVersion? place (⟨.request request, reply⟩ :: history) = some version) :
    ∃ n, version = some n.repr ∧ server.versionAt place = some n ∧ fate.after request server = server := by
  simp only [seenVersion?] at hseen
  split at hseen
  · rename_i hlook
    obtain ⟨hget, rfl⟩ := hlook
    split at hseen
    · rename_i told htold
      have hversion : told.resourceVersion = version := Option.some.inj hseen
      -- a reply that shows an object is the server's own
      cases fate with
      | failed | lost =>
        simp [Fate.admits, htold, Except.isOk, Except.toBool] at hadmits
      | served =>
        rw [Server.serve, hget] at hadmits
        simp only [Fate.after, Server.serve, hget]
        cases hobject : server.objects (Server.place request.url) with
        | none => simp [Fate.admits, hobject, htold] at hadmits
        | some object =>
          obtain ⟨secret, n⟩ := object
          simp only [Fate.admits, hobject, htold, beq_iff_eq] at hadmits
          subst hadmits
          exact ⟨n, hversion.symm, by simp [Server.versionAt, hobject], rfl⟩
    · cases hseen
  · cases hseen

theorem Current.step {e e' : Encounter α} {happening : Happening} (hcurrent : e.Current place)
    (h : e.next? place happening = some e') : e'.Current place := by
  intro version hseen
  rcases next?_cases h with ⟨secret, rfl⟩ | ⟨request, resume, fate, reply, -, hadmits, rfl⟩ |
    ⟨action, resume, answer, -, rfl⟩
  -- a write of the other writer has a later version than any before
  · obtain ⟨n, rfl, hn, -⟩ := hcurrent version hseen
    refine ⟨n, rfl, Nat.le_succ_of_le hn, fun current hversion => ?_⟩
    rw [Server.versionAt_store_self] at hversion
    cases hversion
    exact Nat.lt_succ_of_le hn
  · obtain ⟨n, rfl, hversion, hafter⟩ := seen_of_admits hadmits hseen
    refine ⟨n, rfl, ?_, fun current hcurrent => ?_⟩
    · simp only [advance, hafter]
      exact Server.versionAt_le hversion
    · simp only [advance, hafter] at hcurrent
      exact Option.some.inj (hcurrent.symm.trans hversion)
  · cases hseen

/-- The run has guarded its replacements, and will guard those to come. -/
structure Sound (place : String) (e : Encounter α) : Prop where
  guarded : e.program.Disciplined (GuardedWrite place) e.history
  current : e.Current place

theorem Sound.step {e e' : Encounter α} {happening : Happening} (hsound : e.Sound place)
    (h : e.next? place happening = some e') : e'.Sound place := by
  refine ⟨?_, hsound.current.step h⟩
  have hguarded := hsound.guarded
  rcases next?_cases h with ⟨secret, rfl⟩ | ⟨request, resume, fate, reply, hprogram, -, rfl⟩ |
    ⟨action, resume, answer, hprogram, rfl⟩
  · exact hguarded
  · rw [hprogram] at hguarded
    exact (hguarded reply _ rfl).2
  · rw [hprogram] at hguarded
    exact (hguarded answer _ rfl).2

/-- A run that has not begun. -/
def start (program : Program traffic α) (server : Server) : Encounter α :=
  { program, server, history := [], disturbed := false }

/-- A write of a run that guards its replacements leaves the password that it meets exactly if it is a
    creation, if the other writer has stored something since the run's last step, or if the password is
    the same. -/
theorem Sound.passwordAt_serve_iff {e : Encounter α} (hsound : e.Sound place) {request : Request}
    (hrequest : e.request? = some request) (hmethod : request.method ≠ .get) {password : String}
    (hstored : e.server.passwordAt place = some password) :
    (e.server.serve request).2.passwordAt place = some password ↔
      request.method = .post ∨ e.disturbed = true ∨
        request.body.map (·.entry Secret.passwordKey) = some password := by
  cases hkind : request.method with
  | get => exact absurd hkind hmethod
  | post => simp [Server.passwordAt_serve_post hkind hstored]
  | put =>
    obtain ⟨resume, hprogram⟩ : ∃ resume, e.program = .ask (.request request) resume := by
      simp only [request?] at hrequest
      split at hrequest
      · rename_i hprogram
        cases hrequest
        exact ⟨_, hprogram⟩
      · cases hrequest
    -- the replacement refers to the version that the run has seen in its last step
    have hguarded := hsound.guarded
    rw [hprogram] at hguarded
    obtain ⟨hplace, secret, hbody, hseen⟩ := (hguarded (.broken "") _ rfl).1 hkind
    obtain ⟨n, hversion, -, hcurrent⟩ := hsound.current _ hseen
    obtain ⟨object, hobject, -⟩ := Option.map_eq_some_iff.1 hstored
    have hthere : e.server.versionAt place = some object.2 := by rw [Server.versionAt, hobject]; rfl
    have hput := Server.passwordAt_serve_put hkind hbody (hplace ▸ hthere)
    rw [hplace, hversion] at hput
    rw [hput, hbody]
    cases hdisturbed : e.disturbed with
    | true =>
      have hlater : n < object.2 := by simpa [hdisturbed] using hcurrent _ hthere
      have hstale : some n.repr ≠ some object.2.repr := fun h =>
        Nat.ne_of_lt hlater (Nat.repr_inj.1 (Option.some.inj h))
      simp [hstale, hstored]
    | false =>
      have hsame : object.2 = n := by simpa [hdisturbed] using hcurrent _ hthere
      simp [hsame]

end Encounter

/-! ### The race between the two reads -/

/-- **When a reconciliation leaves the password of another writer.**  A write that meets a password leaves it
    exactly if it creates, or if the other writer has stored something since the reconciliation last looked
    at the version, or if it writes the same password.  What was stored between its first look, which
    found no password, and that last one is overwritten. -/
theorem keepsPassword_iff {engine : Settings.Engine} {project : String} {svm : Svm} {server : Server}
    {happenings : List Happening} {e : Encounter (Except Failure CredentialOutcome)}
    (hplay : Encounter.play? (secretPlace engine project) happenings
      (.start (reconciliation engine project svm) server) = some e)
    {request : Request} (hrequest : e.request? = some request) (hmethod : request.method ≠ .get)
    {password : String} (hstored : e.server.passwordAt (secretPlace engine project) = some password) :
    (e.server.serve request).2.passwordAt (secretPlace engine project) = some password ↔
      request.method = .post ∨ e.disturbed = true ∨
        request.body.map (·.entry Secret.passwordKey) = some password := by
  have hsound : e.Sound (secretPlace engine project) :=
    Encounter.play?_invariant (fun _ _ _ h => h.step) hplay
      ⟨guarded_reconciliation engine project svm, by rintro version ⟨⟩⟩
  exact hsound.passwordAt_serve_iff hrequest hmethod hstored

/-- The place of a secret. -/
def racePlace : String :=
  "/api/v1/namespaces/ontap-system/secrets/ontap-svm-tenant-a-credentials"

theorem secretPlace_default : secretPlace default "tenant-a" = racePlace := by
  decide +kernel

/-- A server with an empty Secret at that place. -/
def raceServer : Server where
  objects place := if place = racePlace then some (default, 1) else none
  latest := 1
  bounded place secret version h := by
    split at h
    · cases h
      exact Nat.le_refl 1
    · cases h

/-- The Secret of the other writer. -/
def raceSecret : Secret :=
  { (default : Secret) with data := some (.ofList [(Secret.passwordKey, Utf8.encode "theirs")]) }

/-- Every call succeeds, and the password is `ours`. -/
def raceAnswers : (action : Action) → action.Answer
  | .password => "ours"
  | .call (.controller (.createAccount _)) => .ok ()
  | .call _ => .error default
  | .watch _ => none
  | .pause _ => true
  | .cancelled => false
  | .count _ => ()

/-- A text as the reply of a server. -/
def raceReply (text : String) : Reply := .answer 200 (Utf8.encode text)

/-- The reconciliation finds the Secret empty and creates the account; the other writer stores its password;
    the reconciliation looks for the version, and is about to replace the Secret. -/
def raceHappenings : List Happening :=
  [.request .served (raceReply "\x7b\"metadata\":\x7b\"resourceVersion\":\"1\"\x7d\x7d"),
    .action raceAnswers, .action raceAnswers, .theirs raceSecret,
    .request .served (raceReply ("\x7b\"data\":\x7b\"password\":\"dGhlaXJz\"\x7d," ++
      "\"metadata\":\x7b\"resourceVersion\":\"2\"\x7d\x7d"))]

/-- The machine of the project. -/
def raceSvm : Svm := ⟨"tenant-a", some "uuid-a", .running, true, []⟩

/-- The run on the server with the other writer. -/
def race : Encounter (Except Failure CredentialOutcome) :=
  .start (reconciliation default "tenant-a" raceSvm) raceServer

/-- The replacement is about to meet the password of the other writer. -/
theorem race_played :
    (race.play? racePlace raceHappenings).map (fun e =>
      (e.request?.map (·.method), e.server.passwordAt racePlace,
        e.request?.bind fun request => (e.server.serve request).2.passwordAt racePlace)) =
      some (some .put, some "theirs", some "ours") := by
  decide +kernel

/-- The replacement meets the password of the other writer, and overwrites it. -/
theorem race_overwrites : ∃ e request, race.play? racePlace raceHappenings = some e ∧
    e.request? = some request ∧ request.method = .put ∧ e.server.passwordAt racePlace = some "theirs" ∧
    (e.server.serve request).2.passwordAt racePlace = some "ours" := by
  obtain ⟨e, hplay, hvalues⟩ := Option.map_eq_some_iff.1 race_played
  obtain ⟨hmethod, hstored, hafter⟩ := by simpa only [Prod.mk.injEq] using hvalues
  obtain ⟨request, hrequest, hput⟩ := Option.map_eq_some_iff.1 hmethod
  rw [hrequest] at hafter
  exact ⟨e, request, hplay, hrequest, hput, hstored, hafter⟩

/-- When the other writer stores its password once more, the replacement leaves it. -/
theorem race_keeps : ∃ e request, race.play? racePlace (raceHappenings ++ [.theirs raceSecret]) = some e ∧
    e.request? = some request ∧ request.method = .put ∧ e.server.passwordAt racePlace = some "theirs" ∧
    (e.server.serve request).2.passwordAt racePlace = some "theirs" := by
  obtain ⟨e, hplay, hvalues⟩ := Option.map_eq_some_iff.1 race_played
  obtain ⟨hmethod, -, -⟩ := by simpa only [Prod.mk.injEq] using hvalues
  obtain ⟨request, hrequest, hput⟩ := Option.map_eq_some_iff.1 hmethod
  -- the run has not noticed, and is about to send the same request
  have hpassword : raceSecret.entry Secret.passwordKey = "theirs" := by decide +kernel
  have hlate : race.play? racePlace (raceHappenings ++ [.theirs raceSecret]) =
      some { e with server := e.server.store racePlace raceSecret, disturbed := true } := by
    rw [Encounter.play?, List.foldlM_append, ← Encounter.play?, hplay]
    simp [Encounter.next?, hpassword]
  have hwrites : request.method ≠ .get := by rw [hput]; exact Method.noConfusion
  have hstored : (e.server.store racePlace raceSecret).passwordAt racePlace = some "theirs" := by
    rw [Server.passwordAt_store_self, hpassword]
  refine ⟨_, request, hlate, hrequest, hput, hstored, ?_⟩
  rw [← secretPlace_default] at hlate hstored ⊢
  exact (keepsPassword_iff hlate hrequest hwrites hstored).2 (.inr (.inl rfl))

end TenantStorage.Kubernetes
