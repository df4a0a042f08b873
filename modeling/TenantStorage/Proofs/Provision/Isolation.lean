import TenantStorage.Proofs.Provision.Asks
import TenantStorage.Proofs.SecretNames

namespace TenantStorage.Provision

open Systems

/-!
# A run leaves other tenants alone

Everything that a run writes stands under a name that belongs to its project: the name of the machine, the
identifier of the machine, or the name of the secret.  So nothing of another project is written, however the
run ends.

* `OwnCall`, `Owned` — the calls of a project, and the actions that make no others.
* `ensures_owned` — parts whose calls are known beforehand; `asks_reconcile_owned` is one of them.
* `ensures_lookAtSvm_owned`, `ensures_ensureSvm_owned` — the part that learns the identifier on the way.
* `Isolated` — what two states have in common that differ in one project only.
* `Owned.isolated` — a step of a project; `isolated_of_run` — a whole run.
-/

variable {T : Turn → Prop} {project uuid : String} {engine : Settings.Engine} {action : Action}
  {owner owner' : Option String} {s s' s'' : Systems}

/-! ### The calls of a project -/

section OwnCall

variable (engine : Settings.Engine) (project : String) (owner : Option String)

/-- The calls that are a project's own, where `owner` is the identifier of its machine, if it has one. -/
inductive OwnCall : Call → Prop where
  | nodes : OwnCall (.controller .nodes)
  | aggregates : OwnCall (.controller .aggregates)
  | peerGroups : OwnCall (.controller .peerGroups)
  | svmByName : OwnCall (.controller (.svmByName project))
  | svm {uuid : String} (h : owner = some uuid) : OwnCall (.controller (.svm uuid))
  | createSvm {order : Svm.Order} (h : order.name = project) : OwnCall (.controller (.createSvm order))
  | createInterface {interface : Interface} (h : owner = some interface.svmUuid) :
      OwnCall (.controller (.createInterface interface))
  | createAccount {order : Account.Order} (h : owner = some order.ownerUuid) :
      OwnCall (.controller (.createAccount order))
  | account {uuid : String} (h : owner = some uuid) (username : String) :
      OwnCall (.controller (.account uuid username))
  | setPassword {uuid : String} (h : owner = some uuid) (username password : String) :
      OwnCall (.controller (.setPassword uuid username password))
  | getSecret : OwnCall (.secrets (.get engine.secretNamespace (engine.secretName project)))
  | createSecret {record : SecretRecord} (h : MemorySecrets.keyOf record = secretKey engine project) :
      OwnCall (.secrets (.create record))
  | replaceSecret {record : SecretRecord} (h : MemorySecrets.keyOf record = secretKey engine project) :
      OwnCall (.secrets (.replace record))

/-- An action that makes no call but a project's own. -/
def Owned (action : Action) : Prop :=
  ∀ call, action.call? = some call → OwnCall engine project owner call

end OwnCall

/-- A call that is a project's own stays so when its machine is known. -/
theorem OwnCall.mono {call : Call} (h : OwnCall engine project owner call)
    (howner : ∀ uuid, owner = some uuid → owner' = some uuid) : OwnCall engine project owner' call := by
  cases h with
  | nodes => exact .nodes
  | aggregates => exact .aggregates
  | peerGroups => exact .peerGroups
  | svmByName => exact .svmByName
  | svm h => exact .svm (howner _ h)
  | createSvm h => exact .createSvm h
  | createInterface h => exact .createInterface (howner _ h)
  | createAccount h => exact .createAccount (howner _ h)
  | account h username => exact .account (howner _ h) username
  | setPassword h username password => exact .setPassword (howner _ h) username password
  | getSecret => exact .getSecret
  | createSecret h => exact .createSecret h
  | replaceSecret h => exact .replaceSecret h

theorem Owned.mono (h : Owned engine project owner action)
    (howner : ∀ uuid, owner = some uuid → owner' = some uuid) : Owned engine project owner' action :=
  fun call hcall => (h call hcall).mono howner

theorem Owned.of_quiet (h : action.call? = none) : Owned engine project owner action := by
  intro call hcall
  cases h.symm.trans hcall

theorem Owned.call {call : Call} (h : OwnCall engine project owner call) :
    Owned engine project owner (.call call) := by
  rintro _ ⟨⟩
  exact h

theorem Owned.watch {call : Call} (h : OwnCall engine project owner call) :
    Owned engine project owner (.watch call) := by
  rintro _ ⟨⟩
  exact h

/-! ### What a run asks for -/

/-- The promise that every action is the project's own, by the identifier that its machine has then. -/
def owned (engine : Settings.Engine) (project : String) : Program.Conduct actions Systems :=
  fun action s _ _ => Owned engine project (s.controller.uuidOf project) action

theorem asks_call {call : Call} (h : OwnCall engine project owner call) :
    Program.Asks (S := actions) (Owned engine project owner) (Engine.call call).run :=
  .perform (Owned.call h)

/-- A program whose calls are known beforehand to be the project's own. -/
theorem ensures_owned {α : Type} {p : Engine α}
    (h : Program.Asks (S := actions) (Owned engine project owner) p)
    (howner : ∀ uuid, owner = some uuid → s.controller.uuidOf project = some uuid) :
    p.Ensures (conduct T) (owned engine project) (fun _ _ => True) s := by
  have hkept := (h.ensures (conduct T) s).keep
    (fun s => ∀ uuid, owner = some uuid → s.controller.uuidOf project = some uuid) howner
    fun _ _ _ _ hconduct _ h uuid huuid => uuidOf_conduct hconduct (h uuid huuid)
  exact hkept.mono (fun _ _ _ _ hstep => hstep.1.mono hstep.2) fun _ _ _ => trivial

/-- A program that needs not know the machine to keep to its project. -/
theorem ensures_owned_unknown {α : Type} {p : Engine α}
    (h : Program.Asks (S := actions) (Owned engine project none) p) (s : Systems) :
    p.Ensures (conduct T) (owned engine project) (fun _ _ => True) s :=
  ensures_owned h (by rintro _ ⟨⟩)

theorem asks_reconcile_owned (svm : Svm) :
    Program.Asks (S := actions) (Owned engine project svm.uuid) (reconcile engine project svm).run :=
  asks_reconcile svm (.call .getSecret) (fun _ howner => .call (.createAccount howner))
    (fun _ howner => .call (.account howner _)) (fun _ howner _ => .call (.setPassword howner _ _))
    (fun _ => ⟨.call (.createSecret rfl), .call (.replaceSecret rfl)⟩) (.of_quiet rfl) (.of_quiet rfl)

/-- A look at the machine goes by the identifier that the look by name has just shown. -/
theorem ensures_lookAtSvm_owned (s : Systems) :
    (lookAtSvm project).Ensures (conduct T) (owned engine project) (fun _ _ => True) s := by
  unfold lookAtSvm
  rw [Program.ensures_bind]
  refine ensures_watch fun seen s₁ hseen => ⟨.watch .svmByName, ?_⟩
  rcases seen with _ | failure | _ | found
  -- without a machine there is nothing more to ask
  · trivial
  · trivial
  · trivial
  · cases huuid : found.uuid with
    | none =>
      simp only [huuid]
      trivial
    | some uuid =>
      have hproject : s.controller.uuidOf project = some uuid := by
        rw [MemoryController.uuidOf, ← svmByName_watched hseen]
        exact huuid
      simp only [huuid, Program.ensures_bind]
      refine ensures_watch fun shown s₂ _ => ⟨.watch (.svm (uuidOf_conduct hseen hproject)), ?_⟩
      rcases shown with _ | failure | svm <;> trivial

theorem ensures_awaitSvm_owned (policy : RetryPolicy) (s : Systems) :
    Program.Ensures (conduct T) (owned engine project) (fun _ _ => True)
      (awaitSvm policy project).run s := by
  have hquiet (action : Action) (h : action.call? = none) (s : Systems) :
      Program.Ensures (conduct T) (owned engine project) (fun _ _ => True)
        (Program.perform (S := actions) action) s :=
    fun _ _ _ => ⟨.of_quiet h, trivial⟩
  have hwait : (policy.poll engineTimer (lookAtSvm project)).Ensures (conduct T) (owned engine project)
      (fun polled _ => ∀ svm attempts, polled = .ready svm attempts → True) s :=
    RetryPolicy.ensures_poll_found policy (hquiet .cancelled rfl)
      (fun s => (ensures_lookAtSvm_owned s).imp fun _ _ _ _ _ => trivial) (hquiet (.pause _) rfl) s
  unfold awaitSvm
  rw [ExceptT.run_mk, Program.ensures_bind]
  refine hwait.imp ?_
  intro polled s' _
  match polled with
  | .ready _ _ | .exhausted _ _ =>
    rw [Program.ensures_bind]
    exact ensures_count ⟨.of_quiet rfl, trivial⟩
  | .failed _ | .cancelled => trivial

theorem ensures_ensureSvm_owned (engine : Settings.Engine) (s : Systems) :
    Program.Ensures (conduct T) (owned engine project) (fun _ _ => True)
      (ensureSvm engine project).run s := by
  unfold ensureSvm
  refine Program.Ensures.attempt _
    (ensures_owned_unknown (asks_within (asks_call .svmByName)) s) ?_ (fun _ _ _ => trivial)
  intro found s₁ _
  match found with
  | some svm => trivial
  | none =>
    have hask : Program.Asks (S := actions) (Owned engine project none) (orderSvm project).run :=
      asks_orderSvm (.call .aggregates) (fun _ hname => .call (.createSvm hname)) (.of_quiet rfl)
    refine Program.Ensures.attempt _ (ensures_owned_unknown hask s₁) ?_ (fun _ _ _ => trivial)
    intro _ s₂ _
    refine Program.Ensures.attempt (fun _ _ => True) (ensures_within (ensures_awaitSvm_owned _ s₂)) ?_ ?_
    · exact fun _ _ _ => trivial
    · exact fun _ _ _ => trivial

/-- Everything that a run asks for is its project's own. -/
theorem ensures_provision_owned (engine : Settings.Engine) (request : Request) (s : Systems) :
    Program.Ensures (conduct T) (owned engine request.projectId) (fun _ _ => True)
      (request.provision engine).run s := by
  have hsteps : Program.Ensures (conduct T) (owned engine request.projectId) (fun _ _ => True)
      (request.steps engine).run s := by
    -- what the later parts need is that the run goes on with the project's machine
    refine ensures_steps (fun _ _ => True)
      (fun _ svm _ s => ∀ uuid, svm.uuid = some uuid → s.controller.uuidOf request.projectId = some uuid)
      (fun svm _ _ s => ∀ uuid, svm.uuid = some uuid → s.controller.uuidOf request.projectId = some uuid)
      (fun _ _ => trivial) ?_ ?_ (fun _ _ _ _ _ _ _ => trivial) ?_ ?_
    · intro _
      exact (ensures_owned_unknown (asks_selectNodes (.call .nodes)) s).imp
        fun _ _ _ => ⟨fun _ _ => trivial, fun _ _ _ => trivial⟩
    · intro nodes s₁ _
      refine ((ensures_ensureSvm_owned engine s₁).and (ensures_identified engine s₁)).mono
        (fun _ _ _ _ h => h.1) fun result s₂ h => ⟨?_, fun _ _ _ => trivial⟩
      rintro ⟨svm, created⟩ hok
      exact h.2 svm created hok
    · intro nodes svm created s₂ hidentified uuid huuid
      have hproject := hidentified uuid huuid
      have hasks : Program.Asks (S := actions) (Owned engine request.projectId (some uuid))
          (allocate engine ⟨uuid, request.dataIps, request.managementIp⟩ nodes).run :=
        asks_allocate (.call .peerGroups)
          (fun _ howner => .call (.createInterface (congrArg some howner.symm))) fun _ => .of_quiet rfl
      have howner : ∀ u, some uuid = some u → s₂.controller.uuidOf request.projectId = some u := by
        rintro _ ⟨⟩
        exact hproject
      refine (ensures_uuidOf (ensures_owned hasks howner) hproject).imp fun result s₃ h =>
        ⟨fun _ _ other hother => ?_, fun _ _ _ => trivial⟩
      rw [← hother, huuid]
      exact h.2
    · intro svm created interfaces s₃ hidentified
      exact (ensures_owned (asks_reconcile_owned svm) hidentified).imp
        fun _ _ _ => ⟨fun _ _ => trivial, fun _ _ _ => trivial⟩
  unfold Request.provision
  rw [ExceptT.run_mk, Program.ensures_bind]
  refine hsteps.imp fun result s' _ => ?_
  rw [Program.ensures_bind]
  exact ensures_count ⟨.of_quiet rfl, trivial⟩

/-! ### What stays -/

/-- Two states that differ in nothing but what belongs to one project, where `owner` is the identifier of its
    machine. -/
structure Isolated (engine : Settings.Engine) (project : String) (owner : Option String) (s s' : Systems) :
    Prop where
  /-- Machines with other names. -/
  machines : ∀ name, name ≠ project →
    s'.controller.machines.find? name = s.controller.machines.find? name
  /-- Interfaces of other machines, in their order. -/
  interfaces : s'.controller.interfaces.filter (fun i => owner != some i.svmUuid) =
    s.controller.interfaces.filter (fun i => owner != some i.svmUuid)
  /-- Accounts of other machines. -/
  accounts : ∀ key : KeyPair, owner ≠ some key.first →
    s'.controller.accounts.find? key = s.controller.accounts.find? key
  /-- Other secrets. -/
  secrets : ∀ key, key ≠ secretKey engine project →
    s'.secrets.records.find? key = s.secrets.records.find? key

theorem Isolated.refl (s : Systems) : Isolated engine project owner s s :=
  ⟨fun _ _ => rfl, rfl, fun _ _ => rfl, fun _ _ => rfl⟩

theorem Isolated.trans (h : Isolated engine project owner s s') (h' : Isolated engine project owner s' s'') :
    Isolated engine project owner s s'' where
  machines name hname := (h'.machines name hname).trans (h.machines name hname)
  interfaces := h'.interfaces.trans h.interfaces
  accounts key hkey := (h'.accounts key hkey).trans (h.accounts key hkey)
  secrets key hkey := (h'.secrets key hkey).trans (h.secrets key hkey)

/-- A step of a project leaves everything else alone, if no other machine has the identifier by which it may
    look at the project's. -/
theorem Owned.isolated (h : Owned engine project owner action) (turn : Turn)
    (hunshared : action.part? = some .machines → ∀ uuid, owner = some uuid →
      s.controller.Unshared project uuid) :
    Isolated engine project owner s (s.answer turn action).2 where
  machines name hname := by
    refine controller_answer_of turn action
      (p := fun c => c.machines.find? name = s.controller.machines.find? name) rfl fun call hcall => ?_
    have hown := h (.controller call) (Action.call?_of_controllerCall? hcall)
    refine (MemoryController.becomes_perform call _).machine ?_ ?_
    · rintro order rfl
      cases hown with
      | createSvm horder => exact horder ▸ hname.symm
    · rintro uuid rfl hother
      cases hown with
      | svm howner => exact hname (hunshared (by rw [Action.part?, hcall]; rfl) uuid howner name hother)
  interfaces := by
    refine controller_answer_of turn action (p := fun c =>
      c.interfaces.filter (fun i => owner != some i.svmUuid) =
        s.controller.interfaces.filter (fun i => owner != some i.svmUuid)) rfl fun call hcall => ?_
    refine (MemoryController.becomes_perform call _).interfaces_of _ ?_
    rintro interface rfl
    cases h _ (Action.call?_of_controllerCall? hcall) with
    | createInterface howner => simp [howner]
  accounts key hkey := by
    refine find?_accounts_answer turn action fun haccount => ?_
    obtain ⟨call, hcall, hwrites⟩ := Option.bind_eq_some_iff.1 haccount
    cases h _ (Action.call?_of_controllerCall? hcall) with
    | createAccount howner | setPassword howner =>
      cases hwrites
      exact hkey howner
    | _ => cases hwrites
  secrets key hkey := by
    refine find?_records_answer turn action fun hsecret => ?_
    obtain ⟨call, hcall, hwrites⟩ := Option.bind_eq_some_iff.1 hsecret
    cases h _ (Action.call?_of_secretCall? hcall) with
    | getSecret => cases hwrites
    | createSecret howner | replaceSecret howner =>
      cases hwrites
      exact hkey howner

/-! ### A whole run -/

/-- A machine that has an identifier at some step of a run has it at the end. -/
theorem uuidOf_of_moves {α : Type} {attempt : Attempt α} {course : Course} {name : String}
    {move : Program.Move actions Systems} (hmove : move ∈ s.moves course attempt)
    (h : move.before.controller.uuidOf name = some uuid) :
    (s.run course attempt).2.controller.uuidOf name = some uuid := by
  have hkeeps (action : Action) (s : Systems) (huuid : s.controller.uuidOf name = some uuid) :
      (handle course action s).2.controller.uuidOf name = some uuid :=
    uuidOf_conduct (handle_conduct (T := fun _ => True) (fun _ => trivial) action s) huuid
  have hafter : move.after.controller.uuidOf name = some uuid := by
    rw [(Prod.mk.inj (Program.moves_handle (S := actions) attempt.run s move hmove)).2]
    exact hkeeps move.op move.before h
  exact (Program.keep_of_moves (S := actions) hkeeps attempt.run s).2 move hmove hafter

/-- **A run leaves other tenants alone.**  However it ends, a run changes nothing but what belongs to its
    project, and the secret of another project is not the one that it may write.  Machines stay, so identifiers
    that are distinct at the end were so all the time. -/
theorem isolated_of_run (hvalid : engine.validate = .ok ()) (run : Attempted) (s : Systems)
    (hdistinct : (run.final engine s).controller.UuidsDistinct) :
    Isolated engine run.request.projectId
        ((run.final engine s).controller.uuidOf run.request.projectId) s (run.final engine s) ∧
      ∀ other, other ≠ run.request.projectId →
        engine.secretName other ≠ engine.secretName run.request.projectId ∧
          storedSecret engine other (run.final engine s) = storedSecret engine other s := by
  have hisolated : Isolated engine run.request.projectId
      ((run.final engine s).controller.uuidOf run.request.projectId) s (run.final engine s) := by
    refine Program.related_of_moves (S := actions) .refl (fun _ _ _ => .trans) fun move hmove => ?_
    obtain ⟨⟨turn, -, hpair⟩, howned⟩ := moves_of_ensures
      (ensures_provision_owned (T := fun _ => True) engine run.request s) run.course (fun _ => trivial)
      move hmove
    rw [(Prod.mk.inj hpair).2]
    -- the identifier that the machine has at this step is the one that it has at the end
    refine (howned.mono fun uuid huuid => uuidOf_of_moves hmove huuid).isolated turn ?_
    intro _ uuid hproject other hother
    exact hdistinct _ uuid hproject other (uuidOf_of_moves hmove hother)
  refine ⟨hisolated, fun other hother => ?_⟩
  have hname : engine.secretName other ≠ engine.secretName run.request.projectId :=
    fun h => hother (Settings.Engine.secretName_injective hvalid h)
  refine ⟨hname, hisolated.secrets ⟨engine.secretNamespace, engine.secretName other⟩ fun hkey => ?_⟩
  exact hname (congrArg KeyPair.second hkey)

/-- Two nodes on which two tenants have machines, one of them with an account, an interface and a secret. -/
def neighbours : Systems where
  controller :=
    { (((MemoryController.initial.withNodes [⟨"node-1", "n1"⟩, ⟨"node-2", "n2"⟩]).withRunningSvm
        "tenant-a" "uuid-a").withRunningSvm "tenant-b" "uuid-b").withAccount "uuid-b" "vsadmin" "b" with
      interfaces := [endpoint "data-lif-0" (.v4 ⟨10, 0, 1, 1⟩) .data "uuid-b" ⟨"node-1", "n1"⟩
        (.ofPeerGroups 0)] }
  secrets := .withSecret .empty (projectSecret default "tenant-b" ⟨"vsadmin", "b"⟩)
  turn := 0

/-- A run for a third tenant that is cancelled while it waits for its machine. -/
def strandedRun : Attempted :=
  ⟨⟨"tenant-c", [.v4 ⟨10, 0, 2, 1⟩], .v4 ⟨10, 0, 2, 9⟩⟩, fun n => ⟨none, n = 7, "c"⟩⟩

theorem isolated_of_strandedRun :
    (default : Settings.Engine).validate = .ok () ∧
      (strandedRun.final default neighbours).controller.UuidsDistinct ∧
      (strandedRun.result default neighbours).isOk = false ∧
      Isolated default "tenant-c" ((strandedRun.final default neighbours).controller.uuidOf "tenant-c")
        neighbours (strandedRun.final default neighbours) ∧
      ∀ other, other ≠ "tenant-c" →
        (default : Settings.Engine).secretName other ≠ (default : Settings.Engine).secretName "tenant-c" ∧
          storedSecret default other (strandedRun.final default neighbours) =
            storedSecret default other neighbours := by
  have hdistinct : (strandedRun.final default neighbours).controller.UuidsDistinct := by decide +kernel
  exact ⟨rfl, hdistinct, by decide +kernel, isolated_of_run rfl strandedRun neighbours hdistinct⟩

end TenantStorage.Provision
