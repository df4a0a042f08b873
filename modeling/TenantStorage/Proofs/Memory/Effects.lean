import TenantStorage.Proofs.SortedMap
import TenantStorage.Proofs.Systems

namespace TenantStorage

/-!
# Which call changes what

A call to the controller changes machines, interfaces, one account, or nothing that can be seen but its
tally; a call to the store of secrets changes one secret or nothing.

* `ControllerCall.part?`, `ControllerCall.account?`, `SecretCall.secret?` — what a call may write.
* `MemoryController.Becomes` — everything that a call may make of a controller; `becomes_perform` says so.
* `MemorySecrets.Becomes` — the same for the store of secrets.
* `MemoryController.SameSetup` — what no call changes.
* `Becomes.machines`, `Becomes.interfaces`, `Becomes.account`, `Becomes.secret` — what a call leaves alone.
* `machines_answer`, `find?_accounts_answer`, … — the same for whatever an action of the engine comes to.
-/

/-- The parts of a controller that calls may write. -/
inductive ControllerPart where
  | machines
  | interfaces
  | accounts
deriving DecidableEq

/-- The part of the controller that a call may write. -/
def ControllerCall.part? : ControllerCall → Option ControllerPart
  | svm _ => some .machines
  | createSvm _ => some .machines
  | createInterface _ => some .interfaces
  | createAccount _ => some .accounts
  | setPassword _ _ _ => some .accounts
  | svmByName _ | nodes | aggregates | peerGroups | account _ _ => none

/-- The account that a call to the controller may write. -/
def ControllerCall.account? : ControllerCall → Option KeyPair
  | createAccount order => some ⟨order.ownerUuid, order.credentials.username⟩
  | setPassword ownerUuid username _ => some ⟨ownerUuid, username⟩
  | _ => none

/-- The secret that a call to the store of secrets may write. -/
def SecretCall.secret? : SecretCall → Option KeyPair
  | create record => some (MemorySecrets.keyOf record)
  | replace record => some (MemorySecrets.keyOf record)
  | get _ _ => none

/-- The call to the controller that an action makes. -/
def Action.controllerCall? (action : Action) : Option ControllerCall :=
  match action.call? with
  | some (.controller c) => some c
  | _ => none

/-- The call to the store of secrets that an action makes. -/
def Action.secretCall? (action : Action) : Option SecretCall :=
  match action.call? with
  | some (.secrets c) => some c
  | _ => none

theorem Action.call?_of_controllerCall? {action : Action} {call : ControllerCall}
    (h : action.controllerCall? = some call) : action.call? = some (.controller call) := by
  rw [controllerCall?] at h
  split at h
  · cases h
    assumption
  · cases h

theorem Action.call?_of_secretCall? {action : Action} {call : SecretCall}
    (h : action.secretCall? = some call) : action.call? = some (.secrets call) := by
  rw [secretCall?] at h
  split at h
  · cases h
    assumption
  · cases h

/-- The part of the controller that an action may write. -/
def Action.part? (action : Action) : Option ControllerPart :=
  action.controllerCall?.bind ControllerCall.part?

/-- The account that an action may write. -/
def Action.account? (action : Action) : Option KeyPair :=
  action.controllerCall?.bind ControllerCall.account?

/-- The secret that an action may write. -/
def Action.secret? (action : Action) : Option KeyPair :=
  action.secretCall?.bind SecretCall.secret?

/-! ### Calls to the controller -/

namespace MemoryController

/-- What no call changes: the cluster itself, and how new machines come up. -/
structure SameSetup (c c' : MemoryController) : Prop where
  nodes : c'.nodes = c.nodes
  aggregates : c'.aggregates = c.aggregates
  peerGroups : c'.peerGroups = c.peerGroups
  runningAfter : c'.runningAfter = c.runningAfter
  nvmeAfter : c'.nvmeAfter = c.nvmeAfter
  failingInterfaces : c'.failingInterfaces = c.failingInterfaces

theorem SameSetup.refl (c : MemoryController) : SameSetup c c := ⟨rfl, rfl, rfl, rfl, rfl, rfl⟩

theorem SameSetup.trans {c c' c'' : MemoryController} (h : SameSetup c c') (h' : SameSetup c' c'') :
    SameSetup c c'' where
  nodes := h'.nodes.trans h.nodes
  aggregates := h'.aggregates.trans h.aggregates
  peerGroups := h'.peerGroups.trans h.peerGroups
  runningAfter := h'.runningAfter.trans h.runningAfter
  nvmeAfter := h'.nvmeAfter.trans h.nvmeAfter
  failingInterfaces := h'.failingInterfaces.trans h.failingInterfaces

theorem SameSetup.symm {c c' : MemoryController} (h : SameSetup c c') : SameSetup c' c where
  nodes := h.nodes.symm
  aggregates := h.aggregates.symm
  peerGroups := h.peerGroups.symm
  runningAfter := h.runningAfter.symm
  nvmeAfter := h.nvmeAfter.symm
  failingInterfaces := h.failingInterfaces.symm

/-- What a call may make of a controller.  Each call has one way to change it, and may also leave all but the
    tally alone. -/
inductive Becomes (c : MemoryController) : ControllerCall → MemoryController → Prop where
  | same (call : ControllerCall) : Becomes c call { c with tally := c.tally.add call }
  | looked {uuid : String} {machine : Machine} {machines : SortedMap String Machine}
      (h : c.machines.updateFirst? (fun m => m.svm.uuid == some uuid) c.advance =
        some (machine, machines)) :
      Becomes c (.svm uuid) { c with tally := c.tally.add (.svm uuid), machines }
  | ordered {order : Svm.Order} (h : c.machines.find? order.name = none) :
      Becomes c (.createSvm order)
        { c with
          tally := c.tally.add (.createSvm order)
          assigned := c.assigned + 1
          machines := c.machines.insert order.name (orderedMachine order (c.assigned + 1))
          orders := c.orders ++ [order] }
  | connected {interface : Interface} (h : c.hasInterface interface = false) :
      Becomes c (.createInterface interface)
        { c with
          tally := c.tally.add (.createInterface interface)
          interfaces := c.interfaces ++ [interface] }
  | opened {order : Account.Order}
      (h : c.accounts.find? ⟨order.ownerUuid, order.credentials.username⟩ = none) :
      Becomes c (.createAccount order)
        { c with
          tally := c.tally.add (.createAccount order)
          accounts := c.accounts.insert ⟨order.ownerUuid, order.credentials.username⟩
            ⟨order.role, order.credentials.password⟩ }
  | rotated {ownerUuid username password : String} {login : Login}
      (h : c.accounts.find? ⟨ownerUuid, username⟩ = some login) :
      Becomes c (.setPassword ownerUuid username password)
        { c with
          tally := c.tally.add (.setPassword ownerUuid username password)
          accounts := c.accounts.insert ⟨ownerUuid, username⟩ { login with password } }

/-- Every call does what it may do. -/
theorem becomes_perform (call : ControllerCall) (c : MemoryController) :
    c.Becomes call (c.perform call).2 := by
  cases call with
  | svm uuid =>
    simp only [perform, answer]
    split
    · exact .same _
    · rename_i h
      exact .looked h
  | createSvm order =>
    simp only [perform, answer]
    split
    · exact .same _
    · rename_i h
      exact .ordered (by simpa [SortedMap.contains_eq_isSome] using h)
  | createInterface interface =>
    simp only [perform, answer]
    -- an interface that cannot be created and one that exists are both refused
    split
    · exact .same _
    · split
      · exact .same _
      · rename_i h
        have hfree : c.hasInterface interface = false := by simpa [hasInterface] using h
        exact .connected hfree
  | createAccount order =>
    simp only [perform, answer]
    split
    · exact .same _
    · rename_i h
      exact .opened (by simpa [SortedMap.contains_eq_isSome] using h)
  | setPassword ownerUuid username password =>
    simp only [perform, answer]
    split
    · exact .same _
    · rename_i h
      exact .rotated h
  | svmByName _ | nodes | aggregates | peerGroups | account _ _ => exact .same _

variable {call : ControllerCall} {c c' : MemoryController}

/-- No call changes the setup. -/
theorem Becomes.sameSetup (h : c.Becomes call c') : SameSetup c c' := by
  cases h <;> exact ⟨rfl, rfl, rfl, rfl, rfl, rfl⟩

/-- A call that does not write machines leaves them alone, and assigns no identifier. -/
theorem Becomes.machines (h : c.Becomes call c') (hpart : call.part? ≠ some .machines) :
    c'.machines = c.machines ∧ c'.assigned = c.assigned := by
  cases h with
  | looked _ | ordered _ => exact absurd rfl hpart
  | same _ | connected _ | opened _ | rotated _ => exact ⟨rfl, rfl⟩

/-- A call that does not write machines accepts no order. -/
theorem Becomes.orders (h : c.Becomes call c') (hpart : call.part? ≠ some .machines) :
    c'.orders = c.orders := by
  cases h with
  | ordered _ => exact absurd rfl hpart
  | same _ | looked _ | connected _ | opened _ | rotated _ => rfl

/-- A call that does not write interfaces leaves them alone. -/
theorem Becomes.interfaces (h : c.Becomes call c') (hpart : call.part? ≠ some .interfaces) :
    c'.interfaces = c.interfaces := by
  cases h with
  | connected _ => exact absurd rfl hpart
  | same _ | looked _ | ordered _ | opened _ | rotated _ => rfl

/-- A call that does not write accounts leaves them alone. -/
theorem Becomes.accounts (h : c.Becomes call c') (hpart : call.part? ≠ some .accounts) :
    c'.accounts = c.accounts := by
  cases h with
  | opened _ | rotated _ => exact absurd rfl hpart
  | same _ | looked _ | ordered _ | connected _ => rfl

/-- A call leaves every account alone but the one that it may write. -/
theorem Becomes.account (h : c.Becomes call c') {key : KeyPair} (hkey : call.account? ≠ some key) :
    c'.accounts.find? key = c.accounts.find? key := by
  cases h with
  | opened _ => exact SortedMap.find?_insert_of_ne _ (by rintro rfl; exact hkey rfl) _
  | rotated _ => exact SortedMap.find?_insert_of_ne _ (by rintro rfl; exact hkey rfl) _
  | same _ | looked _ | ordered _ | connected _ => rfl

end MemoryController

/-! ### Calls to the store of secrets -/

namespace MemorySecrets

/-- What a call may make of a store of secrets. -/
inductive Becomes (s : MemorySecrets) : SecretCall → MemorySecrets → Prop where
  | read (ns name : String) : Becomes s (.get ns name) { s with gets := s.gets + 1 }
  | same (call : SecretCall) : Becomes s call s
  | created {record : SecretRecord} (h : s.records.find? (keyOf record) = none) :
      Becomes s (.create record)
        { s with records := s.records.insert (keyOf record) record, creates := s.creates + 1 }
  | replaced {record : SecretRecord} (h : (s.records.find? (keyOf record)).isSome = true) :
      Becomes s (.replace record)
        { s with records := s.records.insert (keyOf record) record, replaces := s.replaces + 1 }

/-- Every call does what it may do. -/
theorem becomes_perform (call : SecretCall) (s : MemorySecrets) :
    s.Becomes call (s.perform call).2 := by
  cases call with
  | get ns name => exact .read ns name
  | create record =>
    simp only [perform]
    split
    · exact .same _
    · rename_i h
      exact .created (by simpa [SortedMap.contains_eq_isSome] using h)
  | replace record =>
    simp only [perform]
    split
    · rename_i h
      exact .replaced h
    · exact .same _

/-- A call that writes no secret leaves them all alone. -/
theorem Becomes.records {call : SecretCall} {s s' : MemorySecrets} (h : s.Becomes call s')
    (hsecret : call.secret? = none) : s'.records = s.records := by
  cases h with
  | created _ | replaced _ => cases hsecret
  | read _ _ | same _ => rfl

/-- A call leaves every secret alone but the one that it may write. -/
theorem Becomes.secret {call : SecretCall} {s s' : MemorySecrets} (h : s.Becomes call s')
    {key : KeyPair} (hkey : call.secret? ≠ some key) : s'.records.find? key = s.records.find? key := by
  cases h with
  | created _ => exact SortedMap.find?_insert_of_ne _ (by rintro rfl; exact hkey rfl) _
  | replaced _ => exact SortedMap.find?_insert_of_ne _ (by rintro rfl; exact hkey rfl) _
  | read _ _ | same _ => rfl

end MemorySecrets

/-! ### Actions of the engine -/

namespace Systems

variable {turn : Turn} {action : Action} {s : Systems}

/-- What holds of a controller that stays and of one that takes a call holds after any action. -/
theorem controller_answer_of (turn : Turn) (action : Action) {p : MemoryController → Prop} (hstay : p s.controller)
    (hcall : ∀ call, action.controllerCall? = some call → p (s.controller.perform call).2) :
    p (s.answer turn action).2.controller := by
  rcases answer_effect turn action s with h | ⟨call, hcall?, h⟩
  · rw [h]
    exact hstay
  · rw [h]
    cases call with
    | controller call => exact hcall call (by simp [Action.controllerCall?, hcall?])
    | secrets call => exact hstay

/-- What holds of a store that stays and of one that takes a call holds after any action. -/
theorem secrets_answer_of (turn : Turn) (action : Action) {p : MemorySecrets → Prop} (hstay : p s.secrets)
    (hcall : ∀ call, action.secretCall? = some call → p (s.secrets.perform call).2) :
    p (s.answer turn action).2.secrets := by
  rcases answer_effect turn action s with h | ⟨call, hcall?, h⟩
  · rw [h]
    exact hstay
  · rw [h]
    cases call with
    | controller call => exact hstay
    | secrets call => exact hcall call (by simp [Action.secretCall?, hcall?])

theorem sameSetup_answer (turn : Turn) (action : Action) (s : Systems) :
    s.controller.SameSetup (s.answer turn action).2.controller :=
  controller_answer_of turn action (.refl _) fun call _ => (MemoryController.becomes_perform call _).sameSetup

theorem machines_answer (turn : Turn) (action : Action) (h : action.part? ≠ some .machines) :
    (s.answer turn action).2.controller.machines = s.controller.machines ∧
      (s.answer turn action).2.controller.assigned = s.controller.assigned :=
  controller_answer_of turn action
    (p := fun c => c.machines = s.controller.machines ∧ c.assigned = s.controller.assigned)
    ⟨rfl, rfl⟩ fun call hcall =>
      (MemoryController.becomes_perform call _).machines (by simpa [Action.part?, hcall] using h)

theorem orders_answer (turn : Turn) (action : Action) (h : action.part? ≠ some .machines) :
    (s.answer turn action).2.controller.orders = s.controller.orders :=
  controller_answer_of turn action (p := fun c => c.orders = s.controller.orders) rfl fun call hcall =>
    (MemoryController.becomes_perform call _).orders (by simpa [Action.part?, hcall] using h)

theorem interfaces_answer (turn : Turn) (action : Action) (h : action.part? ≠ some .interfaces) :
    (s.answer turn action).2.controller.interfaces = s.controller.interfaces :=
  controller_answer_of turn action (p := fun c => c.interfaces = s.controller.interfaces) rfl fun call hcall =>
    (MemoryController.becomes_perform call _).interfaces (by simpa [Action.part?, hcall] using h)

theorem accounts_answer (turn : Turn) (action : Action) (h : action.part? ≠ some .accounts) :
    (s.answer turn action).2.controller.accounts = s.controller.accounts :=
  controller_answer_of turn action (p := fun c => c.accounts = s.controller.accounts) rfl fun call hcall =>
    (MemoryController.becomes_perform call _).accounts (by simpa [Action.part?, hcall] using h)

theorem records_answer (turn : Turn) (action : Action) (h : action.secret? = none) :
    (s.answer turn action).2.secrets.records = s.secrets.records :=
  secrets_answer_of turn action (p := fun r => r.records = s.secrets.records) rfl fun call hcall =>
    (MemorySecrets.becomes_perform call _).records (by simpa [Action.secret?, hcall] using h)

theorem find?_accounts_answer {key : KeyPair} (turn : Turn) (action : Action) (h : action.account? ≠ some key) :
    (s.answer turn action).2.controller.accounts.find? key = s.controller.accounts.find? key :=
  controller_answer_of turn action (p := fun c => c.accounts.find? key = s.controller.accounts.find? key) rfl
    fun call hcall =>
      (MemoryController.becomes_perform call _).account (by simpa [Action.account?, hcall] using h)

theorem find?_records_answer {key : KeyPair} (turn : Turn) (action : Action) (h : action.secret? ≠ some key) :
    (s.answer turn action).2.secrets.records.find? key = s.secrets.records.find? key :=
  secrets_answer_of turn action (p := fun r => r.records.find? key = s.secrets.records.find? key) rfl
    fun call hcall =>
      (MemorySecrets.becomes_perform call _).secret (by simpa [Action.secret?, hcall] using h)

end Systems

end TenantStorage
