import TenantStorage.Proofs.Interleaving
import TenantStorage.Proofs.Memory.Effects

namespace TenantStorage

/-!
# What can be seen without the passwords

Passwords may be hidden wherever they stand: in calls and their answers, on the controller, and in secrets.  Only
whether there is one is still to be seen.  The two systems do the same with hidden passwords as with others.

* `hide` — a password that is hidden.
* `SortedMap.mapValues` — a map with other values under the same keys.
* `Action.hidden`, `Action.hideAnswer` — an action and its answer without passwords; `Action.hideReply` — both.
* `Systems.hidden` — both systems without passwords.
* `MemoryController.perform_hidden`, `MemorySecrets.perform_hidden` — each system does the same then.
* `Systems.answer_hidden` — and so do both, whatever befalls an action; `hideReply_answer`, `hidden_answer` — what
  is seen then.
-/

/-- A password that is hidden; only whether there is one is still to be seen. -/
def hide (password : String) : String := if password = "" then "" else "<redacted>"

theorem hide_of_ne_empty {password : String} (h : password ≠ "") : hide password = "<redacted>" := if_neg h

@[simp] theorem hide_eq_empty_iff {password : String} : hide password = "" ↔ password = "" := by
  rw [hide]
  split
  · simp [*]
  · rename_i h
    simp [h]

/-! ### Maps -/

namespace SortedMap

variable {κ ν μ : Type} [Ord κ]

/-- A map with other values under the same keys. -/
def mapValues (f : ν → μ) (m : SortedMap κ ν) : SortedMap κ μ :=
  ⟨m.entries.map fun e => (e.1, f e.2), List.pairwise_map.2 m.sorted⟩

theorem find?_mapValues (f : ν → μ) (m : SortedMap κ ν) (key : κ) :
    (m.mapValues f).find? key = (m.find? key).map f := by
  rw [find?, find?, mapValues, List.find?_map, Option.map_map, Option.map_map]
  rfl

theorem contains_mapValues (f : ν → μ) (m : SortedMap κ ν) (key : κ) :
    (m.mapValues f).contains key = m.contains key := by
  rw [contains, contains, find?_mapValues, Option.isSome_map]

theorem insertEntry_map (f : ν → μ) (key : κ) (value : ν) (entries : List (κ × ν)) :
    insertEntry key (f value) (entries.map fun e => (e.1, f e.2)) =
      (insertEntry key value entries).map fun e => (e.1, f e.2) := by
  induction entries with
  | nil => rfl
  | cons head rest ih =>
    obtain ⟨k, v⟩ := head
    simp only [List.map_cons, insertEntry]
    split
    · rfl
    · rfl
    · rw [ih, List.map_cons]

theorem insert_mapValues [Std.TransOrd κ] (f : ν → μ) (m : SortedMap κ ν) (key : κ) (value : ν) :
    (m.insert key value).mapValues f = (m.mapValues f).insert key (f value) := by
  simp only [insert, mapValues, insertEntry_map]

end SortedMap

/-! ### Calls -/

namespace Credentials

/-- Credentials without the password. -/
def hidden (c : Credentials) : Credentials := { c with password := hide c.password }

@[simp] theorem hasPassword_hidden (c : Credentials) : c.hidden.hasPassword = c.hasPassword := by
  rw [Bool.eq_iff_iff]
  simp [hasPassword, hidden]

end Credentials

/-- A secret without the password. -/
def SecretRecord.hidden (record : SecretRecord) : SecretRecord :=
  { record with credentials := record.credentials.hidden }

/-- The order of an account without the password. -/
def Account.Order.hidden (order : Account.Order) : Account.Order :=
  { order with credentials := order.credentials.hidden }

namespace ControllerCall

/-- A call without the password. -/
def hidden : ControllerCall → ControllerCall
  | createAccount order => createAccount order.hidden
  | setPassword ownerUuid username password => setPassword ownerUuid username (hide password)
  | call => call

/-- No answer of the controller has a password to hide. -/
def hideAnswer : (call : ControllerCall) → Except Failure call.Answer → Except Failure call.hidden.Answer
  | svmByName _, result | svm _, result | createSvm _, result | nodes, result | aggregates, result
  | createInterface _, result | peerGroups, result | createAccount _, result | account _ _, result
  | setPassword _ _ _, result => result

/-- So nothing of an answer is kept back. -/
theorem hideAnswer_injective (call : ControllerCall) {x y : Except Failure call.Answer}
    (h : call.hideAnswer x = call.hideAnswer y) : x = y := by
  cases call <;> exact h

end ControllerCall

namespace SecretCall

/-- A call without the password. -/
def hidden : SecretCall → SecretCall
  | get ns name => get ns name
  | create record => create record.hidden
  | replace record => replace record.hidden

/-- An answer without the password. -/
def hideAnswer : (call : SecretCall) → Except Failure call.Answer → Except Failure call.hidden.Answer
  | get _ _, result => result.map (·.map SecretRecord.hidden)
  | create _, result | replace _, result => result

end SecretCall

namespace Call

/-- A call without the password. -/
def hidden : Call → Call
  | controller call => controller call.hidden
  | secrets call => secrets call.hidden

/-- An answer without the password. -/
def hideAnswer : (call : Call) → Except Failure call.Answer → Except Failure call.hidden.Answer
  | controller call, result => call.hideAnswer result
  | secrets call, result => call.hideAnswer result

end Call

namespace Action

/-- An action without the password. -/
def hidden : Action → Action
  | call c => call c.hidden
  | watch c => watch c.hidden
  | action => action

/-- An answer without the password. -/
def hideAnswer : (action : Action) → action.Answer → action.hidden.Answer
  | call c, result => c.hideAnswer result
  | watch c, result => Option.map c.hideAnswer result
  | pause _, going => going
  | cancelled, arrived => arrived
  | password, fresh => hide fresh
  | count _, () => ()

/-- An action with its answer, without the passwords. -/
def hideReply (reply : Program.Reply actions) : Program.Reply actions :=
  ⟨hidden reply.op, hideAnswer reply.op reply.answer⟩

end Action

/-! ### The two systems -/

/-- What is known of an account, without the password. -/
def MemoryController.Login.hidden (login : MemoryController.Login) : MemoryController.Login :=
  { login with password := hide login.password }

namespace MemoryController

variable (c : MemoryController)

/-- A controller without the passwords. -/
def hidden : MemoryController := { c with accounts := c.accounts.mapValues Login.hidden }

@[simp] theorem hidden_machines : c.hidden.machines = c.machines := rfl

@[simp] theorem hidden_failingInterfaces : c.hidden.failingInterfaces = c.failingInterfaces := rfl

theorem hidden_advance : c.hidden.advance = c.advance := rfl

theorem hidden_hasInterface (interface : Interface) : c.hidden.hasInterface interface = c.hasInterface interface :=
  rfl

theorem contains_hidden (key : KeyPair) : c.hidden.accounts.contains key = c.accounts.contains key :=
  SortedMap.contains_mapValues Login.hidden c.accounts key

theorem find?_hidden (key : KeyPair) : c.hidden.accounts.find? key = (c.accounts.find? key).map Login.hidden :=
  SortedMap.find?_mapValues Login.hidden c.accounts key

theorem insert_hidden (key : KeyPair) (login : Login) :
    { c.hidden with accounts := c.hidden.accounts.insert key login.hidden } =
      { c with accounts := c.accounts.insert key login }.hidden :=
  congrArg (fun accounts => { c with accounts })
    (SortedMap.insert_mapValues Login.hidden c.accounts key login).symm

/-- What a tallied call does, it does with hidden passwords. -/
theorem answer_hidden (call : ControllerCall) :
    answer call.hidden c.hidden = (call.hideAnswer (answer call c).1, (answer call c).2.hidden) := by
  -- each hidden call is spelled out first, so that both answers have one type before a case is taken
  cases call with
  | svmByName _ | nodes | aggregates | peerGroups => rfl
  | svm uuid =>
    change answer (.svm uuid) c.hidden = ((answer (.svm uuid) c).1, (answer (.svm uuid) c).2.hidden)
    rw [answer, answer, hidden_machines, hidden_advance]
    cases c.machines.updateFirst? (fun m => m.svm.uuid == some uuid) c.advance <;> rfl
  | createSvm order =>
    change answer (.createSvm order) c.hidden =
      ((answer (.createSvm order) c).1, (answer (.createSvm order) c).2.hidden)
    rw [answer, answer, hidden_machines]
    cases c.machines.contains order.name <;> rfl
  | createInterface interface =>
    change answer (.createInterface interface) c.hidden =
      ((answer (.createInterface interface) c).1, (answer (.createInterface interface) c).2.hidden)
    rw [answer, answer, hidden_failingInterfaces, hidden_hasInterface]
    cases c.failingInterfaces.contains interface.name <;> cases c.hasInterface interface <;> rfl
  | createAccount order =>
    change answer (.createAccount order.hidden) c.hidden =
      ((answer (.createAccount order) c).1, (answer (.createAccount order) c).2.hidden)
    rw [answer, answer]
    change (if c.hidden.accounts.contains ⟨order.ownerUuid, order.credentials.username⟩ then _ else _) = _
    rw [contains_hidden]
    cases c.accounts.contains ⟨order.ownerUuid, order.credentials.username⟩ with
    | true => rfl
    | false =>
      exact congrArg (Prod.mk _)
        (insert_hidden c ⟨order.ownerUuid, order.credentials.username⟩ ⟨order.role, order.credentials.password⟩)
  | account ownerUuid username =>
    change answer (.account ownerUuid username) c.hidden =
      ((answer (.account ownerUuid username) c).1, (answer (.account ownerUuid username) c).2.hidden)
    rw [answer, answer, find?_hidden, Option.map_map]
    rfl
  | setPassword ownerUuid username password =>
    change answer (.setPassword ownerUuid username (hide password)) c.hidden =
      ((answer (.setPassword ownerUuid username password) c).1,
        (answer (.setPassword ownerUuid username password) c).2.hidden)
    rw [answer, answer, find?_hidden]
    cases c.accounts.find? ⟨ownerUuid, username⟩ with
    | none => rfl
    | some login =>
      exact congrArg (Prod.mk _) (insert_hidden c ⟨ownerUuid, username⟩ { login with password })

/-- The controller does the same with hidden passwords. -/
theorem perform_hidden (call : ControllerCall) :
    c.hidden.perform call.hidden = (call.hideAnswer (c.perform call).1, (c.perform call).2.hidden) := by
  have htally : c.tally.add call.hidden = c.tally.add call := by cases call <;> rfl
  have hstart : { c.hidden with tally := c.hidden.tally.add call.hidden } =
      { c with tally := c.tally.add call }.hidden := congrArg (fun tally => { c.hidden with tally }) htally
  rw [perform, perform, hstart, answer_hidden]

end MemoryController

namespace MemorySecrets

variable (s : MemorySecrets)

/-- A store without the passwords. -/
def hidden : MemorySecrets := { s with records := s.records.mapValues SecretRecord.hidden }

theorem contains_hidden (record : SecretRecord) :
    s.hidden.records.contains (keyOf record.hidden) = s.records.contains (keyOf record) :=
  SortedMap.contains_mapValues SecretRecord.hidden s.records (keyOf record)

theorem insert_hidden (record : SecretRecord) :
    s.hidden.records.insert (keyOf record.hidden) record.hidden =
      (s.records.insert (keyOf record) record).mapValues SecretRecord.hidden :=
  (SortedMap.insert_mapValues SecretRecord.hidden s.records (keyOf record) record).symm

/-- The store does the same with hidden passwords. -/
theorem perform_hidden (call : SecretCall) :
    s.hidden.perform call.hidden = (call.hideAnswer (s.perform call).1, (s.perform call).2.hidden) := by
  cases call with
  | get ns name =>
    exact congrArg (fun found => (Except.ok found, { s.hidden with gets := s.gets + 1 }))
      (SortedMap.find?_mapValues SecretRecord.hidden s.records ⟨ns, name⟩)
  | create record =>
    change (if s.hidden.records.contains (keyOf record.hidden) then _ else
      (Except.ok (), { s.hidden with
        records := s.hidden.records.insert (keyOf record.hidden) record.hidden
        creates := s.creates + 1 })) = ((s.perform (.create record)).1, (s.perform (.create record)).2.hidden)
    rw [contains_hidden, insert_hidden, perform]
    cases s.records.contains (keyOf record) <;> rfl
  | replace record =>
    change (if s.hidden.records.contains (keyOf record.hidden) then
      (Except.ok (), { s.hidden with
        records := s.hidden.records.insert (keyOf record.hidden) record.hidden
        replaces := s.replaces + 1 }) else _) =
          ((s.perform (.replace record)).1, (s.perform (.replace record)).2.hidden)
    rw [contains_hidden, insert_hidden, perform]
    cases s.records.contains (keyOf record) <;> rfl

end MemorySecrets

/-! ### Both systems -/

/-- What befalls an action, without the password. -/
def Turn.hidden (turn : Turn) : Turn := { turn with password := hide turn.password }

namespace Systems

variable (s : Systems)

/-- Both systems without the passwords. -/
def hidden : Systems := { s with controller := s.controller.hidden, secrets := s.secrets.hidden }

theorem perform_hidden (call : Call) :
    s.hidden.perform call.hidden = (call.hideAnswer (s.perform call).1, (s.perform call).2.hidden) := by
  cases call with
  | controller call =>
    exact congrArg (fun done => (done.1, { s.hidden with controller := done.2 }))
      (s.controller.perform_hidden call)
  | secrets call =>
    exact congrArg (fun done => (done.1, { s.hidden with secrets := done.2 })) (s.secrets.perform_hidden call)

/-- A failure has no password to hide. -/
theorem hideAnswer_error (call : Call) (failure : Failure) :
    call.hideAnswer (.error failure) = .error failure := by
  rcases call with call | call <;> cases call <;> rfl

theorem attend_hidden (mishap : Option Mishap) (call : Call) :
    s.hidden.attend mishap call.hidden =
      (call.hideAnswer (s.attend mishap call).1, (s.attend mishap call).2.hidden) := by
  match mishap with
  | none => exact congrArg (fun done => (done.1, done.2.tick)) (s.perform_hidden call)
  | some (.before failure) => exact congrArg (·, s.hidden.tick) (hideAnswer_error call failure).symm
  | some (.after failure) =>
    rw [attend, attend, perform_hidden]
    exact congrArg (·, (s.perform call).2.hidden.tick) (hideAnswer_error call failure).symm

/-- Whatever befalls an action, with hidden passwords the same is done. -/
theorem answer_hidden (turn : Turn) (action : Action) :
    s.hidden.answer turn.hidden action.hidden =
      (action.hideAnswer (s.answer turn action).1, (s.answer turn action).2.hidden) := by
  cases action with
  | call call => exact s.attend_hidden turn.mishap call
  | watch call =>
    change (if turn.cancelled then (none, s.hidden.tick) else
      (some (s.hidden.attend turn.mishap call.hidden).1, (s.hidden.attend turn.mishap call.hidden).2)) =
        (Option.map call.hideAnswer (s.answer turn (.watch call)).1, (s.answer turn (.watch call)).2.hidden)
    rw [attend_hidden, answer]
    cases turn.cancelled <;> rfl
  | pause _ | cancelled | password | count _ => rfl

/-- What is seen of an answer depends only on what is seen of the action and of the systems. -/
theorem hideReply_answer (turn : Turn) (action : Action) :
    Action.hideReply ⟨action, (s.answer turn action).1⟩ =
      ⟨action.hidden, (s.hidden.answer turn.hidden action.hidden).1⟩ := by
  rw [answer_hidden]
  rfl

/-- And so does what is seen of the systems afterwards. -/
theorem hidden_answer (turn : Turn) (action : Action) :
    (s.answer turn action).2.hidden = (s.hidden.answer turn.hidden action.hidden).2 := by
  rw [answer_hidden]

end Systems

end TenantStorage
