import TenantStorage.Proofs.LetterCase
import TenantStorage.Proofs.Rest.Bodies
import TenantStorage.Provision.Endpoints
import TenantStorage.Rest.Client

namespace TenantStorage

open Engine

/-!
# What a reply of the management interface comes to

A reply is judged by its status, and a refusal also by what the text of its body says.

* `NameTaken` — the refusals that stand for a name that exists already.
* `accept_classified` — what the client makes of an answer.
* `replies_classified` — what that means for the creation of an interface and for the search for an account.
-/

namespace Rest

/-! ### What an answer comes to -/

/-- The statuses of success. -/
def Success (status : Nat) : Prop := 200 ≤ status ∧ status < 300

/-- A refusal says that a name exists already: by its status, or, if it blames the client, by its message. -/
def NameTaken (status : Nat) (message : String) : Prop :=
  status = 409 ∨ 400 ≤ status ∧ status < 500 ∧ status ≠ 404 ∧
    (Text.Mentions message "duplicate entry" ∨ Text.Mentions message "already exists")

/-- What the client makes of an answer with a status, a body, and the text of that, which says something. -/
structure Classified (target : Target) (status : Nat) (body : List UInt8) (text message : String) : Prop where
  success : target.accept (.arrived status body text) = .ok body ↔ Success status
  missing : target.accept (.arrived status body text) = .error (.notFound target.kind target.name) ↔ status = 404
  taken : target.accept (.arrived status body text) = .error (.alreadyExists target.kind target.name) ↔
    NameTaken status message
  other : ¬Success status → status ≠ 404 → ¬NameTaken status message →
    target.accept (.arrived status body text) = .error (.controller target.operation status message)

theorem isDuplicate_iff {message : String} : isDuplicate message = true ↔
    Text.Mentions message "duplicate entry" ∨ Text.Mentions message "already exists" := by
  rw [isDuplicate, Bool.or_eq_true, Text.contains_lower_iff (by decide), Text.contains_lower_iff (by decide)]

/-- The failure that a refusal stands for, in the order in which its kinds are told apart. -/
theorem refusal_cases (target : Target) (status : Nat) (body : String) :
    (status = 404 → target.refusal status body = .notFound target.kind target.name) ∧
    (NameTaken status (refusalMessage body) →
      target.refusal status body = .alreadyExists target.kind target.name) ∧
    (status ≠ 404 → ¬NameTaken status (refusalMessage body) →
      target.refusal status body = .controller target.operation status (refusalMessage body)) := by
  refine ⟨fun hmissing => if_pos hmissing, fun htaken => ?_, fun hthere hfree => ?_⟩
  · rcases htaken with hconflict | ⟨hlow, hhigh, hthere, hmentions⟩
    · rw [Target.refusal, if_neg (by omega), if_pos hconflict]
    · rw [Target.refusal, if_neg hthere]
      by_cases hconflict : status = 409
      · rw [if_pos hconflict]
      · rw [if_neg hconflict, if_pos ⟨hlow, hhigh, isDuplicate_iff.2 hmentions⟩]
  · rw [Target.refusal, if_neg hthere, if_neg fun hconflict => hfree (.inl hconflict),
      if_neg fun ⟨hlow, hhigh, hmentions⟩ => hfree (.inr ⟨hlow, hhigh, hthere, isDuplicate_iff.1 hmentions⟩)]

theorem NameTaken.not_success {status : Nat} {message : String} (h : NameTaken status message) :
    ¬Success status := by
  rintro ⟨-, hhigh⟩
  rcases h with hconflict | ⟨hlow, -, -, -⟩ <;> omega

/-- The client takes an answer for a success, a missing object, a name that is taken, or another refusal. -/
theorem accept_classified (target : Target) (status : Nat) (body : List UInt8) (text : String) :
    Classified target status body text (refusalMessage text) := by
  obtain ⟨hmissing, htaken, hother⟩ := refusal_cases target status text
  by_cases hsuccess : Success status
  · have haccept : target.accept (.arrived status body text) = .ok body := if_pos hsuccess
    have hthere : status ≠ 404 := fun h => by
      obtain ⟨-, hhigh⟩ := hsuccess
      omega
    have hfree : ¬NameTaken status (refusalMessage text) := fun h => h.not_success hsuccess
    exact ⟨by simp [haccept, hsuccess], by simp [haccept, hthere], by simp [haccept, hfree],
      fun hno => absurd hsuccess hno⟩
  · have haccept : target.accept (.arrived status body text) = .error (target.refusal status text) :=
      if_neg hsuccess
    by_cases h404 : status = 404
    · have hfree : ¬NameTaken status (refusalMessage text) := by
        rintro (h409 | ⟨-, -, hthere, -⟩)
        · omega
        · exact hthere h404
      rw [hmissing h404] at haccept
      exact ⟨by simp [haccept, hsuccess], ⟨fun _ => h404, fun _ => haccept⟩, by simp [haccept, hfree],
        fun _ hthere => absurd h404 hthere⟩
    · by_cases hname : NameTaken status (refusalMessage text)
      · rw [htaken hname] at haccept
        exact ⟨by simp [haccept, hsuccess], by simp [haccept, h404], by simp [haccept, hname],
          fun _ _ hfree => absurd hname hfree⟩
      · rw [hother h404 hname] at haccept
        exact ⟨by simp [haccept, hsuccess], by simp [haccept, h404], by simp [haccept, hname],
          fun _ _ _ => haccept⟩

/-! ### The engine behind the client -/

/-- Surroundings in which the storage controller stands behind its management interface; a peer replies to
    requests, and whatever else is asked is answered by others. -/
def overRest {σ : Type} (settings : Settings.Controller) (peer : Request → σ → Reply × σ)
    (others : (action : Action) → σ → action.Answer × σ) : (action : Action) → σ → action.Answer × σ
  | .call (.controller call), s => (perform settings call).run peer s
  | action, s => others action s

/-- What comes back for a call, if it makes a request. -/
def replyTo {σ : Type} (settings : Settings.Controller) (peer : Request → σ → Reply × σ)
    (call : ControllerCall) (s : σ) : Option Reply :=
  (request? settings (queryOf call)).map fun request => (peer request s).1

/-- A request that can be made is replied to. -/
theorem replyTo_eq_none_iff {σ : Type} {settings : Settings.Controller} {peer : Request → σ → Reply × σ}
    {call : ControllerCall} {s : σ} : replyTo settings peer call s = none ↔
      Url.parse? (urlText settings.endpoint (queryOf call).path) = none := by
  rw [replyTo, Option.map_eq_none_iff, request?, requestBy?, Option.map_eq_none_iff, Url.parse?]

theorem overRest_controller {σ : Type} (settings : Settings.Controller) (peer : Request → σ → Reply × σ)
    (others : (action : Action) → σ → action.Answer × σ) (call : ControllerCall) (s : σ) :
    (overRest settings peer others (.call (.controller call)) s).1 =
      match replyTo settings peer call s with
      | none => .error .http
      | some reply => interpret call reply := by
  change ((perform settings call).run peer s).1 = _
  unfold perform replyTo
  cases request? settings (queryOf call) <;> rfl

theorem run_controller {σ : Type} (handle : (action : Action) → σ → action.Answer × σ) (call : ControllerCall)
    (s : σ) :
    (Program.run (S := actions) handle (controller call).run s).1 = (handle (.call (.controller call)) s).1 := rfl

/-- What the engine makes of the answer when it creates an interface. -/
def created (interface : Interface) : Except Failure Unit → Except Failure Unit
  | .ok () => .ok ()
  | .error failure =>
    if failure.isAlreadyExists then .ok () else .error (.interfaceCreation interface.name failure)

theorem run_createInterface {σ : Type} (handle : (action : Action) → σ → action.Answer × σ)
    (interface : Interface) (s : σ) :
    (Program.run (S := actions) handle (Provision.createInterface interface).run s).1 =
      created interface (handle (.call (.controller (.createInterface interface))) s).1 := by
  have hstep : Program.run (S := actions) handle (Provision.createInterface interface).run s =
      Program.run (S := actions) handle
        (match (handle (.call (.controller (.createInterface interface))) s).1 with
        | .ok () => do
          count (.interfaceCreated interface.role)
          return .ok ()
        | .error failure =>
          if failure.isAlreadyExists then return .ok ()
          else return .error (.interfaceCreation interface.name failure))
        (handle (.call (.controller (.createInterface interface))) s).2 := rfl
  rw [hstep]
  cases (handle (.call (.controller (.createInterface interface))) s).1 with
  | ok value => rfl
  | error failure => cases h : failure.isAlreadyExists <;> simp only [created, h] <;> rfl

/-! ### The calls -/

theorem plainAnswer_of_error {call : ControllerCall} {reply : Reply} {failure : Failure}
    (h : (targetOf call).accept reply = .error failure) : plainAnswer call reply = .error failure := by
  rw [plainAnswer, h]
  rfl

theorem plainAnswer_of_ok {call : ControllerCall} {reply : Reply} {body : List UInt8}
    (h : (targetOf call).accept reply = .ok body) : plainAnswer call reply = bodyAnswer call body := by
  rw [plainAnswer, h]
  rfl

/-- The body of a success cannot be read, or tells an account; it never says that there is none. -/
theorem bodyAnswer_account (ownerUuid username : String) (body : List UInt8) :
    bodyAnswer (.account ownerUuid username) body = .error .jsonParse ∨
      ∃ account, bodyAnswer (.account ownerUuid username) body = .ok (some account) := by
  cases hread :
    (bodyValue? (.account ownerUuid username) body).bind (readAnswer? (.account ownerUuid username)) with
  | none => exact .inl (by simp [bodyAnswer, hread])
  | some found =>
    obtain ⟨value, -, hvalue⟩ := Option.bind_eq_some_iff.1 hread
    obtain ⟨account, -, rfl⟩ := Option.map_eq_some_iff.1 hvalue
    exact .inr ⟨account, by simp [bodyAnswer, hread]⟩

/-- The creation of an interface reads nothing, so any success will do. -/
theorem interpret_createInterface (interface : Interface) (reply : Reply) :
    interpret (.createInterface interface) reply =
      match (targetOf (.createInterface interface)).accept reply with
      | .ok _ => .ok ()
      | .error failure => .error failure := by
  change plainAnswer (.createInterface interface) reply = _
  cases h : (targetOf (.createInterface interface)).accept reply with
  | error failure => exact plainAnswer_of_error h
  | ok body => exact plainAnswer_of_ok h

/-- The search for an account finds none just when a refusal says so. -/
theorem interpret_account_iff (ownerUuid username : String) (reply : Reply) :
    interpret (.account ownerUuid username) reply = .ok none ↔
      ∃ failure, (targetOf (.account ownerUuid username)).accept reply = .error failure ∧ failure.isNotFound := by
  rw [interpret]
  cases h : (targetOf (.account ownerUuid username)).accept reply with
  | error failure =>
    rw [plainAnswer_of_error h]
    cases hkind : failure.isNotFound <;> simp [hkind]
  | ok body =>
    rw [plainAnswer_of_ok h]
    rcases bodyAnswer_account ownerUuid username body with hbody | ⟨account, hbody⟩
    · simp [hbody, Failure.isNotFound, Failure.root]
    · simp [hbody]

/-! ### Success and duplicates -/

/-- An interface is in place after a success and after a refusal because of its name. -/
theorem created_of_classified {interface : Interface} {status : Nat} {body : List UInt8} {text message : String}
    (h : Classified (targetOf (.createInterface interface)) status body text message)
    {result : Except Failure Unit}
    (hresult : result = created interface (interpret (.createInterface interface) (.arrived status body text))) :
    (result = .ok () ↔ Success status ∨ NameTaken status message) ∧
      (300 ≤ status ∧ status < 400 ∨ 500 ≤ status →
        result = .error (.interfaceCreation interface.name (.controller "create interface" status message))) := by
  rw [interpret_createInterface] at hresult
  by_cases hsuccess : Success status
  · rw [h.success.2 hsuccess] at hresult
    refine ⟨by simp [hresult, created, hsuccess], fun hclass => ?_⟩
    obtain ⟨hlow, hhigh⟩ := hsuccess
    omega
  by_cases htaken : NameTaken status message
  · rw [h.taken.2 htaken] at hresult
    refine ⟨by simp [hresult, created, htaken, Failure.isAlreadyExists, Failure.root], fun hclass => ?_⟩
    rcases htaken with hconflict | ⟨hlow, hhigh, -, -⟩ <;> omega
  by_cases hmissing : status = 404
  · rw [h.missing.2 hmissing] at hresult
    exact ⟨by simp [hresult, created, hsuccess, htaken, Failure.isAlreadyExists, Failure.root],
      fun hclass => by omega⟩
  · rw [h.other hsuccess hmissing htaken] at hresult
    exact ⟨by simp [hresult, created, hsuccess, htaken, Failure.isAlreadyExists, Failure.root], fun _ => hresult⟩

/-- A refusal says that something is missing just by its status. -/
theorem isNotFound_of_classified {target : Target} {status : Nat} {body : List UInt8} {text message : String}
    (h : Classified target status body text message) :
    (∃ failure, target.accept (.arrived status body text) = .error failure ∧ failure.isNotFound) ↔
      status = 404 := by
  constructor
  · rintro ⟨failure, hfailure, hkind⟩
    by_contra hthere
    by_cases hsuccess : Success status
    · rw [h.success.2 hsuccess] at hfailure
      cases hfailure
    by_cases htaken : NameTaken status message
    · rw [h.taken.2 htaken] at hfailure
      cases hfailure
      cases hkind
    · rw [h.other hsuccess hthere htaken] at hfailure
      cases hfailure
      cases hkind
  · intro hmissing
    exact ⟨_, h.missing.2 hmissing, rfl⟩

/-- **Which replies are successes, and which say that something exists already.**  A text arrives from its octets
    where no encoding is named, and each text says one thing, which is the error if it is written for one.  By
    status and message the client takes an answer for a success, a missing object, a name that is taken or another
    refusal.  So the engine creates an interface through the client just when the reply is a success or says that
    the name is taken, which no redirection and no fault of the server does, whatever its text; and it finds that
    there is no account just when the status is 404.  Only without a URL is there no reply. -/
theorem replies_classified :
    (∀ (status : Nat) (body : List UInt8) (text : String), Encoding.Writes text body →
      Reply.answer status body = .arrived status body text) ∧
    (∀ detail : Detail, IsMessage detail.written detail.text) ∧
    (∀ (target : Target) (status : Nat) (body : List UInt8) (text : String), ∃ message,
      (∀ other, IsMessage text other ↔ other = message) ∧ Classified target status body text message) ∧
    ∀ {σ : Type} (settings : Settings.Controller) (peer : Request → σ → Reply × σ)
      (others : (action : Action) → σ → action.Answer × σ) (s : σ),
      (∀ interface : Interface,
        let result := (Program.run (S := actions) (overRest settings peer others)
          (Provision.createInterface interface).run s).1
        match replyTo settings peer (.createInterface interface) s with
        | some (.arrived status _ text) => ∃ message, IsMessage text message ∧
          (result = .ok () ↔ Success status ∨ NameTaken status message) ∧
          (300 ≤ status ∧ status < 400 ∨ 500 ≤ status →
            result = .error (.interfaceCreation interface.name
              (.controller "create interface" status message)))
        | _ => result = .error (.interfaceCreation interface.name .http)) ∧
      (∀ ownerUuid username : String,
        let result := (Program.run (S := actions) (overRest settings peer others)
          (controller (.account ownerUuid username)).run s).1
        match replyTo settings peer (.account ownerUuid username) s with
        | some (.arrived status _ _) => result = .ok none ↔ status = 404
        | _ => result = .error .http) ∧
      ∀ call, replyTo settings peer call s = none ↔
        Url.parse? (urlText settings.endpoint (queryOf call).path) = none := by
  refine ⟨fun status body text h => answer_of_writes h status,
    fun detail => .inl ⟨detail, detail.decodes_written, rfl⟩,
    fun target status body text => ⟨_, fun other => isMessage_iff, accept_classified target status body text⟩, ?_⟩
  intro σ settings peer others s
  refine ⟨fun interface => ?_, fun ownerUuid username => ?_, fun call => replyTo_eq_none_iff⟩
  · intro result
    have hresult : result = created interface
        (overRest settings peer others (.call (.controller (.createInterface interface))) s).1 :=
      run_createInterface _ interface s
    rw [overRest_controller] at hresult
    cases hreply : replyTo settings peer (.createInterface interface) s with
    | none =>
      rw [hreply] at hresult
      exact hresult
    | some reply =>
      rw [hreply] at hresult
      cases reply with
      | broken => exact hresult
      | arrived status body text =>
        exact ⟨_, isMessage_iff.2 rfl, created_of_classified (accept_classified _ status body text) hresult⟩
  · intro result
    have hresult : result =
        (overRest settings peer others (.call (.controller (.account ownerUuid username))) s).1 :=
      run_controller _ (.account ownerUuid username) s
    rw [overRest_controller] at hresult
    cases hreply : replyTo settings peer (.account ownerUuid username) s with
    | none =>
      rw [hreply] at hresult
      exact hresult
    | some reply =>
      rw [hreply] at hresult
      cases reply with
      | broken => exact hresult
      | arrived status body text =>
        rw [hresult]
        exact (interpret_account_iff ownerUuid username _).trans
          (isNotFound_of_classified (accept_classified _ status body text))

end Rest

end TenantStorage
