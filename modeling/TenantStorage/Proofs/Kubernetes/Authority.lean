import TenantStorage.Proofs.Credentials.HandOff
import TenantStorage.Proofs.Kubernetes.Overwrite
import TenantStorage.Proofs.Octets
import TenantStorage.Proofs.SortedMap

namespace TenantStorage.Kubernetes

open Provision

/-!
# When a stored password counts

An object can give the password twice, in octets and in text.  An entry of octets goes before one of text, even if
it is empty, and octets that are no text count as they are: what is not empty is not read as the empty text.

* `Secret.HoldsPassword` — the objects whose password counts; `Secret.hasPassword_toRecord_iff`.
* `Reply.SaysMissing` — the answers that say that there is no object.
* `CallsController` — talks in which the storage controller is called.
* `callsController_iff` — a reconciliation calls the controller just where the answer to its first request shows
  no password that counts.
-/

/-! ### Objects -/

namespace Secret

variable {α : Type} {m : Option (SortedMap String α)} {key : String}

/-- A map, if it is there, lists a value under a key. -/
def Lists (m : Option (SortedMap String α)) (key : String) (value : α) : Prop :=
  ∃ present, m = some present ∧ (key, value) ∈ present.entries

/-- An object holds a password that counts: an entry of octets that is not empty or, where no octets are listed, an
    entry of text that is not empty. -/
def HoldsPassword (secret : Secret) : Prop :=
  (∃ octets, Lists secret.data "password" octets ∧ octets ≠ []) ∨
    (¬∃ octets, Lists secret.data "password" octets) ∧
      ∃ text, Lists secret.stringData "password" text ∧ text ≠ ""

theorem find?_eq_some_iff {value : α} : m.bind (·.find? key) = some value ↔ Lists m key value := by
  simp only [Option.bind_eq_some_iff, SortedMap.find?_eq_some_iff, Lists]

theorem find?_eq_none_iff : m.bind (·.find? key) = none ↔ ¬∃ value, Lists m key value := by
  simp only [← find?_eq_some_iff, ← Option.isSome_iff_exists, Option.not_isSome_iff_eq_none]

theorem hasPassword_iff {credentials : Credentials} :
    credentials.hasPassword = true ↔ credentials.password ≠ "" := by
  simp [Credentials.hasPassword]

/-- The record of an object has a password just where the object holds one that counts. -/
theorem hasPassword_toRecord_iff (secret : Secret) (ns name : String) :
    (secret.toRecord ns name).credentials.hasPassword = true ↔ secret.HoldsPassword := by
  have hentry : (secret.toRecord ns name).credentials.password = secret.entry "password" := rfl
  rw [hasPassword_iff, hentry, entry, HoldsPassword]
  cases hdata : secret.data.bind (·.find? "password") with
  | some octets =>
    -- the octets decide, whatever is listed as text
    have hlists := find?_eq_some_iff.1 hdata
    have honly {octets'} (h : Lists secret.data "password" octets') : octets' = octets :=
      Option.some.inj ((find?_eq_some_iff.2 h).symm.trans hdata)
    simp only [ne_eq, Utf8.decodeLossy_eq_empty_iff]
    constructor
    · exact fun h => .inl ⟨octets, hlists, h⟩
    · rintro (⟨octets', hoctets, h⟩ | ⟨hnone, -⟩)
      · exact honly hoctets ▸ h
      · exact absurd ⟨octets, hlists⟩ hnone
  | none =>
    have hnone := find?_eq_none_iff.1 hdata
    have hoctets : ¬∃ octets, Lists secret.data "password" octets ∧ octets ≠ [] :=
      fun ⟨octets, h, _⟩ => hnone ⟨octets, h⟩
    simp only [hoctets, hnone, not_false_eq_true, true_and, false_or]
    cases htext : secret.stringData.bind (·.find? "password") with
    | some text =>
      have hlists := find?_eq_some_iff.1 htext
      constructor
      · exact fun h => ⟨text, hlists, h⟩
      · rintro ⟨text', htext', h⟩
        obtain rfl := Option.some.inj ((find?_eq_some_iff.2 htext').symm.trans htext)
        exact h
    | none =>
      have hno := find?_eq_none_iff.1 htext
      constructor
      · exact fun h => absurd rfl h
      · rintro ⟨text, hlists, -⟩
        exact absurd ⟨text, hlists⟩ hno

end Secret

/-! ### Answers -/

/-- An answer says that there is no object: it is an error, and its body tells the code 404 or, where the body tells
    nothing, the answer itself has that code. -/
inductive Reply.SaysMissing : Reply → Prop where
  | told {code : Nat} {body : List UInt8} {status : Status} (herror : 400 ≤ code ∧ code < 600)
      (htext : Utf8.fault? body = none)
      (hstatus : (Json.parse? (Utf8.decodeLossy body)).bind Status.ofJson? = some status)
      (hcode : status.code = 404) : SaysMissing (.answer code body)
  | untold {body : List UInt8} (htext : Utf8.fault? body = none)
      (hstatus : (Json.parse? (Utf8.decodeLossy body)).bind Status.ofJson? = none) :
      SaysMissing (.answer 404 body)

/-- The answers that say so are those that a store takes for it. -/
theorem saysMissing_iff {reply : Reply} :
    reply.SaysMissing ↔ ∃ fault, reply.secret? = .error fault ∧ fault.hasCode 404 = true := by
  constructor
  · intro h
    cases h with
    | @told code body status herror htext hstatus hcode =>
      refine ⟨.refused status, ?_, by simp [Fault.hasCode, hcode]⟩
      simp only [Reply.secret?, htext, if_pos herror, refusal, hstatus, Option.getD_some]
    | @untold body htext hstatus =>
      refine ⟨.refused (refusal 404 (Utf8.decodeLossy body)), ?_, by simp [Fault.hasCode, refusal, hstatus]⟩
      simp only [Reply.secret?, htext]
      rfl
  · rintro ⟨fault, hfault, hcode⟩
    cases reply with
    | broken detail =>
      cases hfault
      cases hcode
    | answer code body =>
      cases htext : Utf8.fault? body with
      | some broken =>
        simp only [Reply.secret?, htext] at hfault
        cases hfault
        cases hcode
      | none =>
        simp only [Reply.secret?, htext] at hfault
        split at hfault
        · -- the refusal is what the body tells, or made of the code of the answer
          rename_i herror
          cases hfault
          cases hstatus : (Json.parse? (Utf8.decodeLossy body)).bind Status.ofJson? with
          | some status =>
            have htold : status.code = 404 := by simpa [Fault.hasCode, refusal, hstatus] using hcode
            exact .told herror htext hstatus htold
          | none =>
            obtain rfl : code = 404 := by simpa [Fault.hasCode, refusal, hstatus] using hcode
            exact .untold htext hstatus
        · split at hfault <;> cases hfault
          cases hcode

/-! ### Talks with the server and the controller -/

/-- Calls to the storage controller. -/
def Exchange.IsControllerCall : Exchange → Prop
  | .action (.call (.controller _)) | .action (.watch (.controller _)) => True
  | _ => False

/-- The storage controller is called in a talk. -/
def CallsController (talk : List (Program.Reply traffic)) : Prop := ∃ reply ∈ talk, reply.op.IsControllerCall

variable {α : Type} {talk talk' : List (Program.Reply traffic)}

theorem callsController_append : CallsController (talk ++ talk') ↔ CallsController talk ∨ CallsController talk' := by
  simp only [CallsController, List.mem_append, or_and_right, exists_or]

/-- What is asked of the server alone is no call to the controller. -/
theorem not_callsController_expand {p : Program api α} {value : α}
    (h : Program.Talk (p.expand ask) talk value) : ¬CallsController talk := by
  induction p generalizing talk with
  | done result =>
    obtain ⟨rfl, -⟩ := Program.talk_done_iff.1 h
    simp [CallsController]
  | ask request resume ih =>
    obtain ⟨reply, rest, rfl, hrest⟩ := Program.talk_ask_iff.1 h
    rintro ⟨step, hstep, hcall⟩
    rcases List.mem_cons.1 hstep with rfl | hstep
    · exact hcall
    · exact ih reply hrest ⟨step, hstep, hcall⟩

theorem callsController_onServer {action : Action} {answer : action.Answer}
    (h : Program.Talk (onServer action) talk answer) :
    CallsController talk ↔ (Exchange.action action).IsControllerCall := by
  cases action with
  | call c =>
    cases c with
    | secrets call => exact iff_of_false (not_callsController_expand h) id
    | controller call =>
      obtain ⟨reply, rest, rfl, hrest⟩ := Program.talk_ask_iff.1 h
      exact iff_of_true ⟨_, List.mem_cons_self, trivial⟩ trivial
  | watch _ | pause _ | cancelled | password | count _ =>
    obtain ⟨reply, rest, rfl, hrest⟩ := Program.talk_ask_iff.1 h
    obtain ⟨rfl, -⟩ := Program.talk_done_iff.1 hrest
    simp [CallsController]

/-- A talk of an engine with its secrets on the server is a talk of the engine, with the same calls to the
    controller. -/
theorem exists_talk_of_expand {p : Engine α} {value : α}
    (h : Program.Talk (Program.expand (S := actions) onServer p) talk value) :
    ∃ inner, Program.Talk (S := actions) p inner value ∧
      (CallsController talk ↔ ∃ reply ∈ inner, (Exchange.action reply.op).IsControllerCall) := by
  induction p generalizing talk with
  | done result =>
    obtain ⟨rfl, rfl⟩ := Program.talk_done_iff.1 h
    exact ⟨[], .done _, by simp [CallsController]⟩
  | ask action resume ih =>
    obtain ⟨first, rest, answer, rfl, hfirst, hrest⟩ := (Program.talk_bind_iff _ _).1 h
    obtain ⟨inner, hinner, hcalls⟩ := ih answer hrest
    refine ⟨⟨action, answer⟩ :: inner, .ask answer hinner, ?_⟩
    rw [callsController_append, callsController_onServer hfirst, hcalls]
    simp only [List.mem_cons, exists_eq_or_imp]

/-- What is said to the storage controller. -/
def ToController : Said → Prop
  | .called (.controller _) _ | .abandoned (.controller _) => True
  | _ => False

/-- Calls to the controller are among what is said. -/
theorem exists_toController_iff {inner : List (Program.Reply actions)} :
    (∃ reply ∈ inner, (Exchange.action reply.op).IsControllerCall) ↔
      ∃ x ∈ inner.filterMap said?, ToController x := by
  have hreply (reply : Program.Reply actions) :
      (Exchange.action reply.op).IsControllerCall ↔ ∃ x, said? reply = some x ∧ ToController x := by
    obtain ⟨action, answer⟩ := reply
    cases action with
    | call c => cases c <;> simp [said?, ToController, Exchange.IsControllerCall]
    | watch c => cases c <;> cases answer <;> simp [said?, ToController, Exchange.IsControllerCall]
    | pause _ => cases answer <;> simp [said?, ToController, Exchange.IsControllerCall]
    | cancelled => cases answer <;> simp [said?, ToController, Exchange.IsControllerCall]
    | password | count _ => simp [said?, ToController, Exchange.IsControllerCall]
  simp only [hreply, List.mem_filterMap]
  grind

variable {engine : Settings.Engine} {project : String} {svm : Svm}

/-- After its secret was read without a password, and only then, a reconciliation of a machine with an identifier
    turns to the controller. -/
theorem toController_iff {said : List Said} {result : Except Failure CredentialOutcome}
    (h : HandOff engine project svm said result) :
    (∃ x ∈ said, ToController x) ↔ svm.uuid ≠ none ∧ ∃ existing rest,
      said = .called (.secrets (readCall engine project)) (.ok existing) :: rest ∧
        existing.filter (·.credentials.hasPassword) = none := by
  cases h with
  | unread failure => simp [ToController]
  | stored record hpassword =>
    simp only [List.mem_singleton, exists_eq_left, ToController, false_iff]
    rintro ⟨-, existing, rest, hsaid, hnone⟩
    cases hsaid
    simp [hpassword] at hnone
  | nameless existing hnone huuid => simp [ToController, huuid]
  | unaccounted existing hnone huuid haccount | written existing reply hnone huuid haccount =>
    obtain ⟨fresh, reply', after, rfl, -⟩ := haccount.orders
    refine iff_of_true ?_ ⟨by simp [huuid], existing, _, rfl, hnone⟩
    exact ⟨_, List.mem_cons_of_mem _ List.mem_cons_self, trivial⟩

/-- A request that cannot be written has no code. -/
theorem hasCode_of_readRequest {ns name : String} {fault : Fault} (h : readRequest ns name = .error fault)
    (code : Nat) : fault.hasCode code = false := by
  simp only [readRequest, Path.ofText] at h
  split at h
  · cases h
    rfl
  · split at h <;> cases h
    rfl

/-- What a store makes of the answer to its request. -/
def heard (ns name : String) : Except Fault Secret → Except Failure (Option SecretRecord)
  | .ok secret => .ok (some (secret.toRecord ns name))
  | .error fault => if fault.hasCode 404 then .ok none else .error (.kubernetes fault)

theorem get_eq (ns name : String) :
    get ns name = send (readRequest ns name) >>= fun told => pure (heard ns name told) := by
  refine congrArg _ (funext fun told => ?_)
  cases told with
  | ok secret => rfl
  | error fault => exact (apply_ite (Program.done (S := api)) _ _ _).symm

/-- What a store hears is no password that counts if there is no object, or one that holds none. -/
theorem heard_none_iff {ns name : String} {told : Except Fault Secret} :
    (∃ existing, heard ns name told = .ok existing ∧ existing.filter (·.credentials.hasPassword) = none) ↔
      (∃ fault, told = .error fault ∧ fault.hasCode 404 = true) ∨
        ∃ secret, told = .ok secret ∧ ¬secret.HoldsPassword := by
  cases told with
  | ok secret => simp [heard, Option.filter_eq_none_iff, ← Secret.hasPassword_toRecord_iff secret ns name]
  | error fault => cases hcode : fault.hasCode 404 <;> simp [heard, hcode]

/-- A secret is read without a password that counts just where the answer to the request shows none, whatever
    follows. -/
theorem reads_none_iff {ns name : String} {answer : Except Failure (Option SecretRecord)}
    (h : Program.Talk ((get ns name).expand ask) talk answer) (later : List (Program.Reply traffic)) :
    (∃ existing, answer = .ok existing ∧ existing.filter (·.credentials.hasPassword) = none) ↔
      ∃ request reply rest, readRequest ns name = .ok request ∧
        talk ++ later = ⟨.request request, reply⟩ :: rest ∧
        (reply.SaysMissing ∨ ∃ secret, reply.secret? = .ok secret ∧ ¬secret.HoldsPassword) := by
  rw [get_eq] at h
  cases hrequest : readRequest ns name with
  | error fault =>
    rw [hrequest] at h
    obtain ⟨-, rfl⟩ := Program.talk_done_iff.1 h
    rw [heard_none_iff]
    simp [hasCode_of_readRequest hrequest]
  | ok request =>
    rw [hrequest] at h
    obtain ⟨reply, rest, rfl, hrest⟩ := Program.talk_ask_iff.1 h
    obtain ⟨rfl, rfl⟩ := Program.talk_done_iff.1 hrest
    rw [heard_none_iff, ← saysMissing_iff]
    constructor
    · exact fun h => ⟨request, reply, later, rfl, rfl, h⟩
    · rintro ⟨_, _, _, -, hsame, h⟩
      cases hsame
      exact h

/-- **A stored secret counts if its octets hold a password, or else its text, and a reconciliation calls the storage
    controller just where the first answer of the server shows no such password.**  Without an identifier of the
    machine it is never called, and neither after any other failure of the first request. -/
theorem callsController_iff :
    (∀ (secret : Secret) (ns name : String),
      (secret.toRecord ns name).credentials.hasPassword = true ↔ secret.HoldsPassword) ∧
    ∀ (engine : Settings.Engine) (project : String) (svm : Svm) {σ : Type}
      (handle : (op : Exchange) → σ → traffic.Answer op × σ) (s : σ),
      CallsController (Program.talk (S := traffic) handle (reconciliation engine project svm) s) ↔
        svm.uuid ≠ none ∧ ∃ request reply rest,
          readRequest engine.secretNamespace (engine.secretName project) = .ok request ∧
          Program.talk (S := traffic) handle (reconciliation engine project svm) s =
            ⟨.request request, reply⟩ :: rest ∧
          (reply.SaysMissing ∨ ∃ secret, reply.secret? = .ok secret ∧ ¬secret.HoldsPassword) := by
  refine ⟨Secret.hasPassword_toRecord_iff, fun engine project svm σ handle s => ?_⟩
  have htalk := Program.talk_run (S := traffic) handle (reconciliation engine project svm) s
  generalize Program.talk (S := traffic) handle (reconciliation engine project svm) s = talk at htalk
  -- the first call reads the secret, and what follows is told by the hand-off
  obtain ⟨first, rest, answer, rfl, hfirst, hrest⟩ := (Program.talk_bind_iff _ _).1 htalk
  obtain ⟨inner, hinner, hcalls⟩ := exists_talk_of_expand hrest
  have hhandOff : HandOff engine project svm
      (.called (.secrets (readCall engine project)) answer :: inner.filterMap said?) _ :=
    handOff_of_said ⟨_, .ask answer hinner, rfl⟩
  have hlater := toController_iff hhandOff
  have hread : ¬ToController (.called (.secrets (readCall engine project)) answer) := id
  simp only [List.mem_cons, exists_eq_or_imp, hread, false_or] at hlater
  have hfirstCalls : ¬CallsController first := not_callsController_expand hfirst
  rw [callsController_append, or_iff_right hfirstCalls, hcalls, exists_toController_iff, hlater,
    ← reads_none_iff hfirst rest]
  -- the first thing said is the read itself, with the answer it was given
  refine and_congr_right fun _ => exists_congr fun existing => ⟨?_, ?_⟩
  · rintro ⟨_, hsame, hnone⟩
    cases hsame
    exact ⟨rfl, hnone⟩
  · rintro ⟨rfl, hnone⟩
    exact ⟨_, rfl, hnone⟩

end TenantStorage.Kubernetes
