import TenantStorage.Proofs.Provision.Isolation

namespace TenantStorage

open Systems

/-!
# Runs for different tenants at the same time

A run for a tenant that has a machine is told nothing but what belongs to the tenant, and the runs for others
write none of it.  So it does not matter how such runs take turns: each of them returns what it returns alone,
and leaves its tenant with what it leaves alone.

* `SameTenant` — two states in which a tenant has the same.
* `SameTenant.answer` — an action of the tenant has the same answer and the same effect in both.
* `Isolated.sameTenant` — an action of another tenant changes none of it.
* `Shared` — both systems, with one count of actions for each run.
* `tenants` — runs that share both systems and take turns.
* `sameTenant_of_tenants` — each is as if it were alone.
-/

namespace Provision

variable {project other uuid uuid' : String} {engine : Settings.Engine} {action : Action}
  {s s' s'' : Systems}

/-! ### What belongs to a tenant -/

/-- Two states in which a tenant has the same, where `uuid` is the identifier of the tenant's machine. -/
structure SameTenant (engine : Settings.Engine) (project uuid : String) (s s' : Systems) : Prop where
  setup : s.controller.SameSetup s'.controller
  machine : s'.controller.machines.find? project = s.controller.machines.find? project
  /-- The interfaces of the machine, in their order. -/
  interfaces : s'.controller.interfaces.filter (·.svmUuid == uuid) =
    s.controller.interfaces.filter (·.svmUuid == uuid)
  accounts : ∀ username,
    s'.controller.accounts.find? ⟨uuid, username⟩ = s.controller.accounts.find? ⟨uuid, username⟩
  secret : storedSecret engine project s' = storedSecret engine project s

theorem SameTenant.refl (s : Systems) : SameTenant engine project uuid s s :=
  ⟨.refl _, rfl, rfl, fun _ => rfl, rfl⟩

theorem SameTenant.trans (h : SameTenant engine project uuid s s')
    (h' : SameTenant engine project uuid s' s'') : SameTenant engine project uuid s s'' where
  setup := h.setup.trans h'.setup
  machine := h'.machine.trans h.machine
  interfaces := h'.interfaces.trans h.interfaces
  accounts username := (h'.accounts username).trans (h.accounts username)
  secret := h'.secret.trans h.secret

/-- What belongs to a tenant does not depend on the number of actions so far. -/
theorem SameTenant.congr {t t' : Systems} (h : SameTenant engine project uuid s s')
    (hcontroller : t.controller = s.controller) (hsecrets : t.secrets = s.secrets)
    (hcontroller' : t'.controller = s'.controller) (hsecrets' : t'.secrets = s'.secrets) :
    SameTenant engine project uuid t t' := by
  cases t
  cases t'
  subst hcontroller hsecrets hcontroller' hsecrets'
  exact ⟨h.setup, h.machine, h.interfaces, h.accounts, h.secret⟩

theorem SameTenant.tick (h : SameTenant engine project uuid s s') :
    SameTenant engine project uuid s.tick s'.tick :=
  h.congr rfl rfl rfl rfl

/-- Whether a machine has an interface is told by its own interfaces. -/
theorem SameTenant.hasInterface {interface : Interface} (h : SameTenant engine project uuid s s')
    (howner : interface.svmUuid = uuid) :
    s'.controller.hasInterface interface = s.controller.hasInterface interface := by
  have hown (c : MemoryController) : c.hasInterface interface =
      (c.interfaces.filter (·.svmUuid == uuid)).any (·.name == interface.name) := by
    rw [MemoryController.hasInterface, List.any_filter, howner]
    simp only [Bool.and_comm]
  rw [hown, hown, h.interfaces]

/-- A call that reads, or that gives the tenant the same in both states. -/
theorem SameTenant.called {call : ControllerCall} (h : SameTenant engine project uuid s s')
    (hpart : call.part? ≠ some .machines)
    (hinterfaces : call.part? = some .interfaces →
      (s'.controller.perform call).2.interfaces.filter (·.svmUuid == uuid) =
        (s.controller.perform call).2.interfaces.filter (·.svmUuid == uuid))
    (haccounts : call.part? = some .accounts → ∀ username,
      (s'.controller.perform call).2.accounts.find? ⟨uuid, username⟩ =
        (s.controller.perform call).2.accounts.find? ⟨uuid, username⟩) :
    SameTenant engine project uuid (s.perform (.controller call)).2 (s'.perform (.controller call)).2 := by
  have hbecomes := MemoryController.becomes_perform call s.controller
  have hbecomes' := MemoryController.becomes_perform call s'.controller
  exact {
    setup := hbecomes.sameSetup.symm.trans (h.setup.trans hbecomes'.sameSetup)
    machine := by
      change (s'.controller.perform call).2.machines.find? project =
        (s.controller.perform call).2.machines.find? project
      rw [(hbecomes.machines hpart).1, (hbecomes'.machines hpart).1, h.machine]
    interfaces := by
      by_cases hcall : call.part? = some .interfaces
      · exact hinterfaces hcall
      · change (s'.controller.perform call).2.interfaces.filter (·.svmUuid == uuid) =
          (s.controller.perform call).2.interfaces.filter (·.svmUuid == uuid)
        rw [hbecomes.interfaces hcall, hbecomes'.interfaces hcall, h.interfaces]
    accounts := fun username => by
      by_cases hcall : call.part? = some .accounts
      · exact haccounts hcall username
      · change (s'.controller.perform call).2.accounts.find? ⟨uuid, username⟩ =
          (s.controller.perform call).2.accounts.find? ⟨uuid, username⟩
        rw [hbecomes.accounts hcall, hbecomes'.accounts hcall, h.accounts username]
    secret := h.secret }

/-- Looking at something that belongs to the tenant. -/
theorem SameTenant.read {call : ControllerCall} (h : SameTenant engine project uuid s s')
    (hpart : call.part? = none)
    (hanswer : (s'.controller.perform call).1 = (s.controller.perform call).1) :
    (s'.perform (.controller call)).1 = (s.perform (.controller call)).1 ∧
      SameTenant engine project uuid (s.perform (.controller call)).2
        (s'.perform (.controller call)).2 := by
  refine ⟨hanswer, h.called ?_ ?_ ?_⟩ <;> rw [hpart] <;> rintro ⟨⟩

theorem SameTenant.createInterface {interface : Interface} (h : SameTenant engine project uuid s s')
    (howner : interface.svmUuid = uuid) :
    (s'.perform (.controller (.createInterface interface))).1 =
        (s.perform (.controller (.createInterface interface))).1 ∧
      SameTenant engine project uuid (s.perform (.controller (.createInterface interface))).2
        (s'.perform (.controller (.createInterface interface))).2 := by
  have hperform (c : MemoryController) : c.perform (.createInterface interface) =
      if c.failingInterfaces.contains interface.name then
        (.error (.controller "create interface" 500 ("injected failure for " ++ interface.name)),
          { c with tally := c.tally.add (.createInterface interface) })
      else if c.hasInterface interface then
        (.error (.alreadyExists "NetworkInterface" interface.name),
          { c with tally := c.tally.add (.createInterface interface) })
      else (.ok (), { c with
        tally := c.tally.add (.createInterface interface)
        interfaces := c.interfaces ++ [interface] }) := rfl
  have hboth : (s'.controller.perform (.createInterface interface)).1 =
        (s.controller.perform (.createInterface interface)).1 ∧
      (s'.controller.perform (.createInterface interface)).2.interfaces.filter (·.svmUuid == uuid) =
        (s.controller.perform (.createInterface interface)).2.interfaces.filter (·.svmUuid == uuid) := by
    rw [hperform, hperform, h.hasInterface howner, h.setup.failingInterfaces]
    split
    · exact ⟨rfl, h.interfaces⟩
    · split
      · exact ⟨rfl, h.interfaces⟩
      · simp [h.interfaces]
  exact ⟨hboth.1, h.called (by rintro ⟨⟩) (fun _ => hboth.2) (by rintro ⟨⟩)⟩

theorem SameTenant.createAccount {order : Account.Order} (h : SameTenant engine project uuid s s')
    (howner : order.ownerUuid = uuid) :
    (s'.perform (.controller (.createAccount order))).1 = (s.perform (.controller (.createAccount order))).1 ∧
      SameTenant engine project uuid (s.perform (.controller (.createAccount order))).2
        (s'.perform (.controller (.createAccount order))).2 := by
  have hthere : s'.controller.accounts.contains ⟨order.ownerUuid, order.credentials.username⟩ =
      s.controller.accounts.contains ⟨order.ownerUuid, order.credentials.username⟩ := by
    rw [SortedMap.contains_eq_isSome, SortedMap.contains_eq_isSome, howner, h.accounts]
  have hboth : (s'.controller.perform (.createAccount order)).1 =
        (s.controller.perform (.createAccount order)).1 ∧
      ∀ username, (s'.controller.perform (.createAccount order)).2.accounts.find? ⟨uuid, username⟩ =
        (s.controller.perform (.createAccount order)).2.accounts.find? ⟨uuid, username⟩ := by
    simp only [MemoryController.perform, MemoryController.answer, hthere]
    split
    · exact ⟨rfl, h.accounts⟩
    · exact ⟨rfl, fun username => SortedMap.find?_insert_congr (h.accounts username) _ _⟩
  exact ⟨hboth.1, h.called (by rintro ⟨⟩) (by rintro ⟨⟩) (fun _ => hboth.2)⟩

theorem SameTenant.setPassword (h : SameTenant engine project uuid s s') (username password : String) :
    (s'.perform (.controller (.setPassword uuid username password))).1 =
        (s.perform (.controller (.setPassword uuid username password))).1 ∧
      SameTenant engine project uuid (s.perform (.controller (.setPassword uuid username password))).2
        (s'.perform (.controller (.setPassword uuid username password))).2 := by
  have hboth : (s'.controller.perform (.setPassword uuid username password)).1 =
        (s.controller.perform (.setPassword uuid username password)).1 ∧
      ∀ other, (s'.controller.perform (.setPassword uuid username password)).2.accounts.find? ⟨uuid, other⟩ =
        (s.controller.perform (.setPassword uuid username password)).2.accounts.find? ⟨uuid, other⟩ := by
    simp only [MemoryController.perform, MemoryController.answer, h.accounts username]
    split
    · exact ⟨rfl, h.accounts⟩
    · exact ⟨rfl, fun other => SortedMap.find?_insert_congr (h.accounts other) _ _⟩
  exact ⟨hboth.1, h.called (by rintro ⟨⟩) (by rintro ⟨⟩) (fun _ => hboth.2)⟩

/-- A call to the store of secrets that is about the tenant's secret. -/
theorem SameTenant.secretCall {call : SecretCall} (h : SameTenant engine project uuid s s')
    (hown : OwnCall engine project (some uuid) (.secrets call)) :
    (s'.perform (.secrets call)).1 = (s.perform (.secrets call)).1 ∧
      SameTenant engine project uuid (s.perform (.secrets call)).2 (s'.perform (.secrets call)).2 := by
  have hsecret : s'.secrets.records.find? (secretKey engine project) =
      s.secrets.records.find? (secretKey engine project) := h.secret
  have hthere (record : SecretRecord) (hrecord : MemorySecrets.keyOf record = secretKey engine project) :
      s'.secrets.records.contains (MemorySecrets.keyOf record) =
        s.secrets.records.contains (MemorySecrets.keyOf record) := by
    rw [SortedMap.contains_eq_isSome, SortedMap.contains_eq_isSome, hrecord, hsecret]
  have hboth : (s'.secrets.perform call).1 = (s.secrets.perform call).1 ∧
      (s'.secrets.perform call).2.records.find? (secretKey engine project) =
        (s.secrets.perform call).2.records.find? (secretKey engine project) := by
    cases hown with
    | getSecret => exact ⟨congrArg Except.ok hsecret, hsecret⟩
    | createSecret hrecord =>
      simp only [MemorySecrets.perform, hthere _ hrecord]
      split
      · exact ⟨rfl, hsecret⟩
      · exact ⟨rfl, SortedMap.find?_insert_congr hsecret _ _⟩
    | replaceSecret hrecord =>
      simp only [MemorySecrets.perform, hthere _ hrecord]
      split
      · exact ⟨rfl, SortedMap.find?_insert_congr hsecret _ _⟩
      · exact ⟨rfl, hsecret⟩
  exact ⟨hboth.1, ⟨h.setup, h.machine, h.interfaces, h.accounts, hboth.2⟩⟩

/-- A call of the tenant that neither orders a machine nor looks at one by identifier. -/
theorem SameTenant.perform {call : Call} (h : SameTenant engine project uuid s s')
    (hown : OwnCall engine project (some uuid) call)
    (hpart : (Action.call call).part? ≠ some .machines) :
    (s'.perform call).1 = (s.perform call).1 ∧
      SameTenant engine project uuid (s.perform call).2 (s'.perform call).2 := by
  cases hown with
  | nodes => exact h.read rfl (congrArg Except.ok h.setup.nodes)
  | aggregates => exact h.read rfl (congrArg Except.ok h.setup.aggregates)
  | peerGroups => exact h.read rfl (congrArg Except.ok h.setup.peerGroups)
  | svmByName =>
    refine h.read rfl ?_
    simp only [MemoryController.perform, MemoryController.answer, MemoryController.svmByName, h.machine]
  | svm _ | createSvm _ => exact absurd rfl hpart
  | createInterface howner => exact h.createInterface (Option.some.inj howner).symm
  | createAccount howner => exact h.createAccount (Option.some.inj howner).symm
  | account howner username =>
    cases howner
    refine h.read rfl ?_
    simp only [MemoryController.perform, MemoryController.answer, h.accounts username]
  | setPassword howner username password =>
    cases howner
    exact h.setPassword username password
  | getSecret => exact h.secretCall .getSecret
  | createSecret hrecord => exact h.secretCall (.createSecret hrecord)
  | replaceSecret hrecord => exact h.secretCall (.replaceSecret hrecord)

/-- A step of a run for a tenant that has a machine: it is the tenant's own, and it neither orders a machine nor
    looks at one by identifier. -/
structure TenantStep (engine : Settings.Engine) (project uuid : String) (action : Action) : Prop where
  owned : Owned engine project (some uuid) action
  part : action.part? ≠ some .machines

/-- A step for the tenant has the same answer and the same effect in both states. -/
theorem SameTenant.answer (h : SameTenant engine project uuid s s')
    (hstep : TenantStep engine project uuid action) (turn : Turn) :
    (s'.answer turn action).1 = (s.answer turn action).1 ∧
      SameTenant engine project uuid (s.answer turn action).2 (s'.answer turn action).2 := by
  have hattend (call : Call) (hcall : action.call? = some call)
      (hpart : (Action.call call).part? = action.part?) :
      (s'.attend turn.mishap call).1 = (s.attend turn.mishap call).1 ∧
        SameTenant engine project uuid (s.attend turn.mishap call).2 (s'.attend turn.mishap call).2 := by
    obtain ⟨hanswer, hafter⟩ := h.perform (hstep.owned call hcall) (hpart ▸ hstep.part)
    match turn.mishap with
    | none => exact ⟨hanswer, hafter.tick⟩
    | some (.before _) => exact ⟨rfl, h.tick⟩
    | some (.after _) => exact ⟨rfl, hafter.tick⟩
  cases action with
  | call c => exact hattend c rfl rfl
  | watch c =>
    obtain ⟨hanswer, hafter⟩ := hattend c rfl rfl
    simp only [Systems.answer]
    split
    · exact ⟨rfl, h.tick⟩
    · exact ⟨congrArg some hanswer, hafter⟩
  | pause _ | cancelled | password | count _ => exact ⟨rfl, h.tick⟩

/-- What differs in nothing but what belongs to another tenant is the same for the tenant. -/
theorem Isolated.sameTenant (h : Isolated engine other (some uuid') s s')
    (hsetup : s.controller.SameSetup s'.controller) (hproject : project ≠ other) (huuid : uuid ≠ uuid')
    (hsecret : engine.secretName project ≠ engine.secretName other) :
    SameTenant engine project uuid s s' where
  setup := hsetup
  machine := h.machines project hproject
  interfaces := by
    have hforeign (c : MemoryController) : c.interfaces.filter (·.svmUuid == uuid) =
        (c.interfaces.filter fun i => some uuid' != some i.svmUuid).filter (·.svmUuid == uuid) := by
      rw [List.filter_filter]
      refine List.filter_congr fun i _ => ?_
      by_cases hi : i.svmUuid = uuid
      · simp [hi, Ne.symm huuid]
      · simp [hi]
    rw [hforeign, hforeign, h.interfaces]
  accounts username := h.accounts ⟨uuid, username⟩ fun hsame => huuid (Option.some.inj hsame).symm
  secret := h.secrets ⟨engine.secretNamespace, engine.secretName project⟩ fun hkey =>
    hsecret (congrArg KeyPair.second hkey)

/-- A run for a tenant that has a machine takes only such steps. -/
theorem ensures_provision_tenant {T : Turn → Prop} (engine : Settings.Engine) {request : Request}
    (huuid : s.controller.uuidOf request.projectId = some uuid) :
    Program.Ensures (conduct T) (fun action _ _ _ => TenantStep engine request.projectId uuid action)
      (fun _ _ => True) (request.provision engine).run s := by
  obtain ⟨machine, hmachine, -⟩ := MemoryController.find?_of_uuidOf huuid
  have hfound : s.controller.svmByName request.projectId = some machine.svm := by
    rw [MemoryController.svmByName, hmachine]
    rfl
  -- the identifier stays, so what is the project's own is told by the one that the machine has now
  have howned := (ensures_provision_owned (T := T) engine request s).keep
    (fun s => s.controller.uuidOf request.projectId = some uuid) huuid
    fun _ _ _ _ hconduct _ h => uuidOf_conduct hconduct h
  refine (howned.and (ensures_provision_found engine hfound)).mono ?_ fun _ _ _ => trivial
  rintro action s answer s' ⟨⟨howned, huuid⟩, hpart⟩
  have hown : ∀ u, s.controller.uuidOf request.projectId = some u → some uuid = some u :=
    fun _ hu => huuid.symm.trans hu
  exact ⟨howned.mono hown, hpart⟩

/-! ### Runs that take turns -/

/-- Both systems, with the number of actions that each of several runs has taken. -/
structure Shared (ι : Type) where
  controller : MemoryController
  secrets : MemorySecrets
  turns : ι → Nat

namespace Shared

variable {ι : Type} [DecidableEq ι] {i j : ι} {shared : Shared ι} {t : Systems} {courses : ι → Course}

/-- The systems as one of the runs sees them. -/
def view (shared : Shared ι) (i : ι) : Systems := ⟨shared.controller, shared.secrets, shared.turns i⟩

/-- Answers each action of a run as its turn in the course of this run says. -/
def handle (courses : ι → Course) (i : ι) (action : Action) (shared : Shared ι) :
    action.Answer × Shared ι :=
  let (answer, after) := Systems.handle (courses i) action (shared.view i)
  (answer, ⟨after.controller, after.secrets, Function.update shared.turns i after.turn⟩)

/-- A run finds in the shared systems what it would find in systems of its own. -/
structure Alike (engine : Settings.Engine) (project uuid : String) (i : ι) (shared : Shared ι)
    (t : Systems) : Prop where
  tenant : SameTenant engine project uuid t (shared.view i)
  turn : shared.turns i = t.turn

/-- A step of the run has the answer and the effect that it would have in systems of its own. -/
theorem Alike.own (h : Alike engine project uuid i shared t)
    (hstep : TenantStep engine project uuid action) :
    (shared.handle courses i action).1 = (Systems.handle (courses i) action t).1 ∧
      Alike engine project uuid i (shared.handle courses i action).2
        (Systems.handle (courses i) action t).2 := by
  obtain ⟨hanswer, hafter⟩ := h.tenant.answer hstep (courses i t.turn)
  have hturn : Systems.handle (courses i) action (shared.view i) =
      (shared.view i).answer (courses i t.turn) action :=
    congrArg (fun n => (shared.view i).answer (courses i n) action) h.turn
  rw [handle, hturn]
  refine ⟨hanswer, hafter.congr rfl rfl rfl rfl, ?_⟩
  change Function.update shared.turns i _ i = _
  rw [Function.update_self, answer_turn, Systems.handle, answer_turn]
  exact congrArg (· + 1) h.turn

/-- The run does not notice a step for another tenant. -/
theorem Alike.unnoticed (h : Alike engine project uuid i shared t)
    (hstep : TenantStep engine other uuid' action) (hne : i ≠ j) (hproject : project ≠ other)
    (huuid : uuid ≠ uuid') (hsecret : engine.secretName project ≠ engine.secretName other) :
    Alike engine project uuid i (shared.handle courses j action).2 t where
  tenant := by
    let turn := courses j (shared.turns j)
    have hisolated := hstep.owned.isolated (s := shared.view j) turn fun hpart => absurd hpart hstep.part
    have hkept := hisolated.sameTenant (sameSetup_answer turn action (shared.view j)) hproject huuid hsecret
    exact h.tenant.trans (hkept.congr rfl rfl rfl rfl)
  turn := by
    rw [← h.turn]
    exact Function.update_of_ne hne _ _

end Shared

/-- Runs that share both systems and have not begun. -/
def tenants {ι : Type} (engine : Settings.Engine) (runs : ι → Attempted) (s : Systems) :
    Pool ι actions (Except Failure Outcome) (Shared ι) where
  programs i := ((runs i).request.provision engine).run
  state := ⟨s.controller, s.secrets, fun _ => s.turn⟩
  log := []

/-- **Runs for different tenants do not get in each other's way.**  However the runs for tenants with machines of
    their own take turns, each comes to its end with the steps that it takes alone, returns what it returns
    alone, and leaves its tenant with what it leaves alone. -/
theorem sameTenant_of_tenants {ι : Type} [DecidableEq ι] (hvalid : engine.validate = .ok ())
    (runs : ι → Attempted) (s : Systems) (uuids : ι → String)
    (hprojects : Function.Injective fun i => (runs i).request.projectId)
    (hdistinct : Function.Injective uuids)
    (huuid : ∀ i, s.controller.uuidOf (runs i).request.projectId = some (uuids i))
    (schedule : List ι) (i : ι) :
    let after := (tenants engine runs s).run (Shared.handle fun i => (runs i).course) schedule
    ((after.programs i).isDone = true ↔ ((runs i).moves engine s).length ≤ schedule.count i) ∧
      ((after.programs i).isDone = true →
        after.programs i = .done ((runs i).result engine s) ∧
          SameTenant engine (runs i).request.projectId (uuids i) ((runs i).final engine s)
            (after.state.view i)) := by
  let courses (i : ι) : Course := (runs i).course
  have hown (i : ι) (action : actions.Op) (shared : Shared ι) (t : Systems)
      (hstep : TenantStep engine (runs i).request.projectId (uuids i) action)
      (halike : Shared.Alike engine (runs i).request.projectId (uuids i) i shared t) :
      (shared.handle courses i action).1 = (Systems.handle (courses i) action t).1 ∧
        Shared.Alike engine (runs i).request.projectId (uuids i) i (shared.handle courses i action).2
          (Systems.handle (courses i) action t).2 :=
    halike.own hstep
  have hothers (i j : ι) (action : actions.Op) (shared : Shared ι) (t : Systems) (hne : i ≠ j)
      (hstep : TenantStep engine (runs j).request.projectId (uuids j) action)
      (halike : Shared.Alike engine (runs i).request.projectId (uuids i) i shared t) :
      Shared.Alike engine (runs i).request.projectId (uuids i) i (shared.handle courses j action).2 t :=
    halike.unnoticed hstep hne (hprojects.ne hne) (hdistinct.ne hne)
      fun hname => hprojects.ne hne (Settings.Engine.secretName_injective hvalid hname)
  have hstart (i : ι) : Shared.Alike engine (runs i).request.projectId (uuids i) i
      (tenants engine runs s).state s := ⟨.refl _, rfl⟩
  have hsteps (i : ι) : Program.Ensures (S := actions)
      (fun action t answer t' => (answer, t') = Systems.handle (courses i) action t)
      (fun action _ _ _ => TenantStep engine (runs i).request.projectId (uuids i) action)
      (fun _ _ => True) ((tenants engine runs s).programs i) s :=
    (ensures_provision_tenant (T := fun _ => True) engine (huuid i)).restrict
      fun action s answer s' hanswer => ⟨_, trivial, hanswer⟩
  obtain ⟨hends, hdone⟩ := Pool.alone_of_run (S := actions) hown hothers hstart hsteps schedule i
  exact ⟨hends, fun h => ⟨(hdone h).1, (hdone h).2.tenant⟩⟩

/-- A run for each of the two tenants that have machines, with passwords of its own. -/
def neighbourRuns : Bool → Attempted
  | false => ⟨⟨"tenant-a", [.v4 ⟨10, 0, 0, 1⟩, .v4 ⟨10, 0, 0, 2⟩], .v4 ⟨10, 0, 0, 9⟩⟩,
      fun n => ⟨none, false, "a" ++ n.repr⟩⟩
  | true => ⟨⟨"tenant-b", [.v4 ⟨10, 0, 1, 1⟩], .v4 ⟨10, 0, 1, 9⟩⟩, fun n => ⟨none, false, "b" ++ n.repr⟩⟩

/-- The identifiers of their machines. -/
def neighbourUuids : Bool → String
  | false => "uuid-a"
  | true => "uuid-b"

theorem sameTenant_of_neighbourRuns :
    let schedule := (List.replicate 15 [false, true, true]).flatten
    let after := (tenants default neighbourRuns neighbours).run
      (Shared.handle fun i => (neighbourRuns i).course) schedule
    (default : Settings.Engine).validate = .ok () ∧
      (Function.Injective fun i => (neighbourRuns i).request.projectId) ∧
      Function.Injective neighbourUuids ∧
      (∀ i, neighbours.controller.uuidOf (neighbourRuns i).request.projectId = some (neighbourUuids i)) ∧
      ∀ i, after.programs i = .done ((neighbourRuns i).result default neighbours) ∧
        SameTenant default (neighbourRuns i).request.projectId (neighbourUuids i)
          ((neighbourRuns i).final default neighbours) (after.state.view i) := by
  have hvalid : (default : Settings.Engine).validate = .ok () := rfl
  have hprojects : Function.Injective fun i => (neighbourRuns i).request.projectId := by
    unfold Function.Injective
    decide
  have huuids : Function.Injective neighbourUuids := by
    unfold Function.Injective
    decide
  have huuid : ∀ i, neighbours.controller.uuidOf (neighbourRuns i).request.projectId =
      some (neighbourUuids i) := by decide +kernel
  have hlong : ∀ i, ((neighbourRuns i).moves default neighbours).length ≤
      (List.replicate 15 [false, true, true]).flatten.count i := by decide +kernel
  refine ⟨hvalid, hprojects, huuids, huuid, fun i => ?_⟩
  obtain ⟨hends, hdone⟩ := sameTenant_of_tenants hvalid neighbourRuns neighbours neighbourUuids
    hprojects huuids huuid (List.replicate 15 [false, true, true]).flatten i
  exact hdone (hends.2 (hlong i))

end Provision

end TenantStorage
