import TenantStorage.Proofs.Credentials.Steps
import TenantStorage.Proofs.Provision.Steps

namespace TenantStorage.Provision

open Systems

/-!
# A failed run is mended by another run

However a run ends, it leaves the secret of its project either without a password or in agreement with the
account.  So a run with which nothing goes wrong succeeds after any number of runs that failed, and then
everything is in place.

* `Sound` — the secret agrees with the account of the machine that the project has or will have.
* `ensures_steps_sound` — a run keeps this, whatever befalls it.
* `Mendable` — the states from which a run can succeed; `Mendable.run` — no run leaves them.
* `smooth` — surroundings in which nothing goes wrong.
* `ensures_awaitSvm_smooth` — there the machine is ready in time.
* `InPlace` — everything that was asked for is there.
* `inPlace_of_runs` — any number of runs, and then one with which nothing goes wrong.
-/

variable {T : Turn → Prop} {project uuid : String} {engine : Settings.Engine} {action : Action}
  {request : Request} {s s' : Systems}

/-! ### What every run keeps -/

/-- Two states with the same accounts and secrets, in which the project's machine has or will have the same
    identifier. -/
structure Unaltered (project : String) (s s' : Systems) : Prop where
  accounts : s'.controller.accounts = s.controller.accounts
  records : s'.secrets.records = s.secrets.records
  machineUuid : s'.controller.machineUuid project = s.controller.machineUuid project

theorem Unaltered.of_alike (h : Alike s s') : Unaltered project s s' where
  accounts := h.accounts
  records := h.records
  machineUuid := by
    rw [MemoryController.machineUuid, MemoryController.machineUuid, MemoryController.uuidOf,
      MemoryController.uuidOf, MemoryController.svmByName, MemoryController.svmByName,
      MemoryController.nextUuid, MemoryController.nextUuid, h.machines, h.assigned]

theorem MachineStep.unaltered (h : MachineStep project action) (turn : Turn) (s : Systems) :
    Unaltered project s (s.answer turn action).2 where
  accounts := accounts_answer turn action fun hpart => by cases h.part _ hpart
  records := records_answer turn action h.secret
  machineUuid := controller_answer_of turn action
    (p := fun c => c.machineUuid project = s.controller.machineUuid project) rfl fun call hcall =>
      (MemoryController.becomes_perform call _).machineUuid fun order horder =>
        h.order order (horder ▸ hcall)

theorem InterfaceStep.unaltered (h : InterfaceStep uuid action) (turn : Turn) (s : Systems) :
    Unaltered project s (s.answer turn action).2 where
  accounts := accounts_answer turn action fun hpart => by cases h.part _ hpart
  records := records_answer turn action h.secret
  machineUuid := controller_answer_of turn action
    (p := fun c => c.machineUuid project = s.controller.machineUuid project) rfl fun call hcall =>
      (MemoryController.becomes_perform call _).machineUuid fun order horder => by
        cases h.part .machines (by rw [Action.part?, hcall, horder]; rfl)

/-- The secret of a project agrees with the account of the machine that the project has or will have. -/
def Sound (engine : Settings.Engine) (project : String) (s : Systems) : Prop :=
  Agrees engine project (some (s.controller.machineUuid project)) s

theorem Unaltered.sound (h : Unaltered project s s') (hsound : Sound engine project s) :
    Sound engine project s' := by
  rw [Sound, h.machineUuid]
  refine hsound.congr ?_ fun uuid _ => ?_
  · rw [secretPassword, secretPassword, MemorySecrets.passwordAt, MemorySecrets.passwordAt,
      MemorySecrets.stored, MemorySecrets.stored, h.records]
  · rw [adminPassword, adminPassword, MemoryController.passwordOf, MemoryController.passwordOf,
      h.accounts]

/-- Steps that alter nothing keep the secret sound. -/
theorem ensures_sound {α : Type} {attempt : Attempt α} {guarantee : Program.Conduct actions Systems}
    {post : Except Failure α → Systems → Prop}
    (h : Program.Ensures (conduct T) guarantee post attempt.run s)
    (hunaltered : ∀ action s answer s', guarantee action s answer s' →
      ∀ turn, Unaltered project s (s.answer turn action).2) (hsound : Sound engine project s) :
    Program.Ensures (conduct T) Program.anyStep
      (fun result s' => post result s' ∧ Sound engine project s') attempt.run s := by
  have hkept := h.keep (Sound engine project) hsound fun action s answer s' hconduct hstep hsound => by
    obtain ⟨turn, -, hpair⟩ := hconduct
    obtain ⟨-, rfl⟩ := Prod.mk.inj hpair
    exact (hunaltered action s answer _ hstep turn).sound hsound
  exact hkept.mono (fun _ _ _ _ _ => trivial) fun _ _ => id

/-- For a project that has a machine the secret agrees with the account of this machine. -/
theorem sound_iff_agrees (h : s.controller.uuidOf project = some uuid) :
    Sound engine project s ↔ Agrees engine project (some uuid) s := by
  rw [Sound, MemoryController.machineUuid, h]
  rfl

theorem ensures_steps_sound (engine : Settings.Engine) (hsound : Sound engine request.projectId s) :
    Program.Ensures (conduct T) Program.anyStep (fun _ s' => Sound engine request.projectId s')
      (request.steps engine).run s := by
  -- every part but the last leaves accounts and secrets alone
  refine ensures_steps (fun _ s => Sound engine request.projectId s)
    (fun _ svm _ s => Sound engine request.projectId s ∧
      ∀ uuid, svm.uuid = some uuid → s.controller.uuidOf request.projectId = some uuid)
    (fun svm _ _ s => Sound engine request.projectId s ∧
      ∃ uuid, svm.uuid = some uuid ∧ s.controller.uuidOf request.projectId = some uuid)
    (fun _ _ => hsound) ?_ ?_ (fun _ _ _ _ hprovided _ _ => hprovided.1) ?_ ?_
  · intro _
    refine (ensures_selectNodes s).mono (fun _ _ _ _ _ => trivial) fun _ s₁ hselected => ?_
    have hsound₁ : Sound engine request.projectId s₁ :=
      (Unaltered.of_alike hselected.alike).sound hsound
    exact ⟨fun _ _ => hsound₁, fun _ _ _ => hsound₁⟩
  · intro nodes s₁ hsound₁
    refine (ensures_sound (ensures_identified engine s₁)
      (fun _ _ _ _ hstep turn => hstep.unaltered turn _) hsound₁).imp fun result s₂ hpost => ?_
    obtain ⟨hidentified, hsound₂⟩ := hpost
    exact ⟨fun (svm, created) hok => ⟨hsound₂, hidentified svm created hok⟩, fun _ _ _ => hsound₂⟩
  · intro nodes svm created s₂ hprovided uuid hsvm
    obtain ⟨hsound₂, hidentified⟩ := hprovided
    have hallocate := ensures_uuidOf (ensures_allocate (T := T) engine
      ⟨uuid, request.dataIps, request.managementIp⟩ nodes s₂) (hidentified uuid hsvm)
    refine (ensures_sound hallocate (fun _ _ _ _ hstep turn => hstep.unaltered turn _)
      hsound₂).imp fun result s₃ hpost => ?_
    obtain ⟨⟨-, huuid₃⟩, hsound₃⟩ := hpost
    exact ⟨fun _ _ => ⟨hsound₃, uuid, hsvm, huuid₃⟩, fun _ _ _ => hsound₃⟩
  · intro svm created interfaces s₃ hallocated
    obtain ⟨hsound₃, uuid, hsvm, huuid₃⟩ := hallocated
    have hreconcile := ensures_uuidOf
      (ensures_reconcile (T := T) engine request.projectId svm s₃) huuid₃
    refine hreconcile.mono (fun _ _ _ _ _ => trivial) fun result s₄ hpost => ?_
    obtain ⟨hreconciled, huuid₄⟩ := hpost
    -- the reconciliation is for the machine that the project has
    have hsound₄ : Sound engine request.projectId s₄ := by
      rw [sound_iff_agrees huuid₄, ← hsvm]
      apply hreconciled.agrees
      rw [hsvm, ← sound_iff_agrees huuid₃]
      exact hsound₃
    exact ⟨fun _ _ => hsound₄, fun _ _ _ => hsound₄⟩

/-- A state that a run with which nothing goes wrong can bring in order. -/
structure Mendable (engine : Settings.Engine) (request : Request) (s : Systems) : Prop where
  built : s.controller.Built
  nodes : minNodes ≤ (distinctNodes s.controller.nodes).length
  interfaces : s.controller.failingInterfaces = []
  due : s.controller.Due engine.readiness.maxAttempts.toNat
  sound : Sound engine request.projectId s

/-- Whether a state can be mended depends on the controller's setup and on the secret. -/
theorem Mendable.of_setup (h : Mendable engine request s) (hbuilt : s'.controller.Built)
    (hsetup : s.controller.SameSetup s'.controller) (hsound : Sound engine request.projectId s') :
    Mendable engine request s' where
  built := hbuilt
  nodes := hsetup.nodes ▸ h.nodes
  interfaces := hsetup.failingInterfaces.trans h.interfaces
  due := hsetup.due h.due
  sound := hsound

/-- Steps that keep the secret sound lead to a state that can be mended. -/
theorem ensures_mendable {α : Type} {p : Engine α} {guarantee : Program.Conduct actions Systems}
    {post : α → Systems → Prop}
    (h : p.Ensures (conduct T) guarantee
      (fun value s' => post value s' ∧ Sound engine request.projectId s') s)
    (hmendable : Mendable engine request s) :
    p.Ensures (conduct T) guarantee
      (fun value s' => post value s' ∧ Mendable engine request s') s := by
  have hbuilt := ensures_keeps MemoryController.Built (fun call c hc => hc.called call)
    hmendable.built (ensures_setup h)
  exact hbuilt.imp fun value s' ⟨⟨⟨hpost, hsound⟩, hsetup⟩, hbuilt⟩ =>
    ⟨hpost, hmendable.of_setup hbuilt hsetup hsound⟩

/-- A run leaves a state that can be mended, however it ends. -/
theorem Mendable.run (h : Mendable engine request s) (course : Course) :
    Mendable engine request (s.run course (request.provision engine)).2 := by
  have hsound : Program.Ensures (conduct fun _ => True) Program.anyStep
      (fun _ s' => True ∧ Sound engine request.projectId s') (request.provision engine).run s := by
    unfold Request.provision
    rw [ExceptT.run_mk, Program.ensures_bind]
    refine (ensures_steps_sound engine h.sound).imp fun result s' hsound => ?_
    rw [Program.ensures_bind]
    exact ensures_count ⟨trivial, trivial, (Unaltered.of_alike (.tick s')).sound hsound⟩
  exact (run_of_ensures (ensures_mendable hsound h) course fun _ => trivial).2

/-! ### When nothing goes wrong -/

/-- Surroundings in which nothing goes wrong, and machines have different identifiers. -/
def smooth : Program.Conduct actions Systems := fun action s answer s' =>
  conduct Turn.Smooth action s answer s' ∧ s'.controller.UuidsDistinct

/-- What is ensured for turns with which nothing goes wrong. -/
theorem ensures_smooth {α : Type} {p : Engine α} (guarantee : Program.Conduct actions Systems)
    {post : α → Systems → Prop} (h : p.Ensures (conduct Turn.Smooth) guarantee post s) :
    p.Ensures smooth Program.anyStep post s :=
  (h.restrict fun _ _ _ _ => And.left).mono (fun _ _ _ _ _ => trivial) fun _ _ => id

/-- The rule for a call that the cancellation may cut short, when nothing goes wrong. -/
theorem ensures_watch_smooth {call : ControllerCall}
    {post : Option (Except Failure call.Answer) → Systems → Prop}
    (h : ∀ s', s'.controller = (s.controller.perform call).2 → s'.controller.UuidsDistinct →
      post (some (s.controller.perform call).1) s') :
    Program.Ensures smooth Program.anyStep post (Engine.watch (.controller call)) s := by
  intro answer s' hanswer
  obtain ⟨hconduct, hdistinct⟩ := hanswer
  refine ⟨trivial, ?_⟩
  rcases watch_cases hconduct with ⟨-, -, turn, hturn, hcancelled⟩ | ⟨turn, hturn, rfl, rfl⟩
  · cases hturn.cancelled.symm.trans hcancelled
  · rw [attend_of_faultless hturn.faultless] at hdistinct ⊢
    exact h _ rfl hdistinct

/-- A machine of the project has been looked at so many times, and was not ready. -/
structure Coming (project : String) (c : MemoryController) (n : Nat) (s : Systems) : Prop where
  setup : c.SameSetup s.controller
  machine : ∃ machine, s.controller.machines.find? project = some machine ∧ machine.lookups = n ∧
    machine.svm.uuid.isSome = true
  late : n = 0 ∨ ¬ c.Due n

theorem Coming.tick {c : MemoryController} {n : Nat} (h : Coming project c n s) :
    Coming project c n s.tick where
  setup := h.setup
  machine := h.machine
  late := h.late

theorem ensures_lookAtSvm_smooth {c : MemoryController} {n : Nat} (h : Coming project c n s) :
    (lookAtSvm project).Ensures smooth Program.anyStep
      (RetryPolicy.Looked (Coming project c) (fun svm _ => svm.uuid.isSome = true)
        (fun _ => False) n) s := by
  obtain ⟨machine, hmachine, rfl, hsome⟩ := h.machine
  obtain ⟨uuid, huuid⟩ := Option.isSome_iff_exists.1 hsome
  unfold lookAtSvm
  rw [Program.ensures_bind]
  refine ensures_watch_smooth fun s₁ hs₁ _ => ?_
  have hfound : (s.controller.perform (.svmByName project)).1 = .ok (some machine.svm) :=
    congrArg Except.ok (congrArg (Option.map MemoryController.Machine.svm) hmachine)
  simp only [hfound, huuid, Program.ensures_bind]
  refine ensures_watch_smooth fun s₂ hs₂ hdistinct => ?_
  have hmachine₁ : s₁.controller.machines.find? project = some machine := by
    rw [hs₁]
    exact hmachine
  have hsetup₁ : c.SameSetup s₁.controller := by
    rw [hs₁]
    exact h.setup.trans (MemoryController.becomes_perform _ _).sameSetup
  -- machines that are distinct after the look were so before it.
  have hlook := MemoryController.becomes_perform (.svm uuid) s₁.controller
  rw [← hs₂] at hlook
  have hproject : s₁.controller.uuidOf project = some uuid :=
    (MemoryController.uuidOf_of_find? hmachine₁).trans huuid
  obtain ⟨hanswer, hmachine₂⟩ := MemoryController.svm_of_find? hmachine₁ huuid
    (hlook.uuidsDistinct hdistinct project uuid hproject)
  rw [← hs₂] at hmachine₂
  simp only [hanswer, probeOf]
  -- a machine that is still not ready was not due at this look
  cases hready : (s₁.controller.advance machine).svm.isReady with
  | true => exact hsome
  | false => exact {
      setup := hsetup₁.trans hlook.sameSetup
      machine := ⟨_, hmachine₂, rfl, hsome⟩
      late := .inr fun hdue => by
        cases hready.symm.trans (MemoryController.isReady_advance hsome (hsetup₁.due hdue)) }

theorem ensures_awaitSvm_smooth {readiness : Settings.Readiness} (hvalid : readiness.validate = .ok ())
    {c : MemoryController} (hdue : c.Due readiness.maxAttempts.toNat) (h : Coming project c 0 s) :
    Program.Ensures smooth Program.anyStep
      (fun result _ => ∃ svm, result = .ok svm ∧ svm.uuid.isSome = true)
      (awaitSvm (.ofSettings readiness) project).run s := by
  unfold awaitSvm
  rw [ExceptT.run_mk, Program.ensures_bind]
  have hwait : (RetryPolicy.poll (.ofSettings readiness) engineTimer (lookAtSvm project)).Ensures smooth
      Program.anyStep
      (RetryPolicy.Waited (Coming project c) (fun svm _ => svm.uuid.isSome = true) (fun _ => False)
        ((RetryPolicy.ofSettings readiness).pauses + 1)) s := by
    refine RetryPolicy.ensures_poll _ ?_ (fun n _ => ensures_lookAtSvm_smooth) ?_ h
    · intro s' hcoming cancelled s'' hanswer
      obtain ⟨⟨turn, hturn, hpair⟩, -⟩ := hanswer
      obtain ⟨rfl, rfl⟩ := Prod.mk.inj hpair
      simp only [hturn.cancelled]
      exact ⟨trivial, hcoming.tick⟩
    · intro n s' hcoming going s'' hanswer
      obtain ⟨⟨turn, hturn, hpair⟩, -⟩ := hanswer
      obtain ⟨rfl, rfl⟩ := Prod.mk.inj hpair
      simp only [hturn.cancelled]
      exact ⟨trivial, hcoming.tick⟩
  refine hwait.imp fun polled s' hwaited => ?_
  cases polled with
  | ready svm attempts =>
    rw [Program.ensures_bind]
    exact ensures_smooth Program.anyStep (ensures_count ⟨trivial, svm, rfl, hwaited⟩)
  | exhausted attempts condition =>
    obtain ⟨-, hcoming⟩ := hwaited
    rw [RetryPolicy.ofSettings_pauses hvalid] at hcoming
    -- the last look came when the machine was due
    rcases hcoming.late with hzero | hnot
    · have hpauses := RetryPolicy.ofSettings_pauses hvalid
      omega
    · exact absurd hdue hnot
  | failed failure => exact absurd hwaited id
  | cancelled => exact absurd hwaited id

theorem ensures_orderSvm_smooth (hfree : s.controller.machines.find? project = none) :
    Program.Ensures smooth Program.anyStep
      (fun result s' => result = .ok () ∧ Coming project s.controller 0 s') (orderSvm project).run s := by
  refine ensures_smooth _ ((ensures_setup (ensures_orderSvm s)).imp fun result s' hpost => ?_)
  obtain ⟨hordered, hsetup⟩ := hpost
  obtain ⟨hok, order, -, hmachines⟩ := hordered.settled (fun _ => Turn.Smooth.faultless) hfree
  -- a new machine has not been looked at
  exact ⟨hok, {
    setup := hsetup
    machine := ⟨_, by rw [hmachines, SortedMap.find?_insert_self], rfl, rfl⟩
    late := .inl rfl }⟩

theorem ensures_ensureSvm_smooth (project : String) (hvalid : engine.readiness.validate = .ok ())
    (hnamed : s.controller.Named) (hdue : s.controller.Due engine.readiness.maxAttempts.toNat) :
    Program.Ensures smooth Program.anyStep
      (fun result _ => ∃ svm created, result = .ok (svm, created) ∧ svm.uuid.isSome = true)
      (ensureSvm engine project).run s := by
  unfold ensureSvm
  refine Program.Ensures.attempt (fun result s' =>
    result = .ok (s.controller.svmByName project) ∧ Alike s s') ?_ ?_ ?_
  · refine ensures_within (ensures_smooth readings ((ensures_read ⟨rfl, rfl⟩ rfl).imp ?_))
    intro result s' hpost
    obtain ⟨halike, -, hanswered⟩ := hpost
    exact ⟨congrArg (Except.mapError _) (hanswered fun _ => Turn.Smooth.faultless), halike⟩
  · intro found s₁ hpost
    obtain ⟨hfound, halike⟩ := hpost
    obtain rfl := Except.ok.inj hfound
    -- a machine that is there is taken whether it is ready or not
    cases hmachine : s.controller.machines.find? project with
    | some machine =>
      rw [MemoryController.svmByName, hmachine]
      exact ⟨machine.svm, false, rfl, (hnamed project machine hmachine).2⟩
    | none =>
      rw [MemoryController.svmByName, hmachine]
      rw [← halike.machines] at hmachine
      refine Program.Ensures.attempt _ (ensures_orderSvm_smooth hmachine) ?_ ?_
      · intro _ s₂ hpost
        obtain ⟨-, hcoming⟩ := hpost
        refine Program.Ensures.attempt (fun result _ => ∃ svm, result = .ok svm ∧ svm.uuid.isSome = true)
          ?_ ?_ ?_
        · refine ensures_within
            ((ensures_awaitSvm_smooth hvalid (halike.setup.due hdue) hcoming).imp ?_)
          rintro _ _ ⟨svm, rfl, huuid⟩
          exact ⟨svm, rfl, huuid⟩
        · intro svm s₃ hpost
          obtain ⟨_, hsvm, huuid⟩ := hpost
          obtain rfl := Except.ok.inj hsvm
          exact ⟨svm, true, rfl, huuid⟩
        · intro failure s₃ hpost
          obtain ⟨_, herror, -⟩ := hpost
          cases herror
      · intro failure s₂ hpost
        cases hpost.1
  · intro failure s₁ hpost
    cases hpost.1

/-! ### A whole run -/

/-- The machine of a request has the planned interfaces. -/
structure Furnished (engine : Settings.Engine) (request : Request) (uuid : String)
    (c : MemoryController) : Prop where
  built : c.Built
  project : c.uuidOf request.projectId = some uuid
  interfaces : ∀ name ∈ plannedNames engine request.dataIps.length,
    ∃ interface ∈ c.interfaces, interface.name = name ∧ interface.svmUuid = uuid

/-- No call takes away what is there. -/
theorem Furnished.called {c : MemoryController} (h : Furnished engine request uuid c)
    (call : ControllerCall) : Furnished engine request uuid (c.perform call).2 where
  built := h.built.called call
  project := (MemoryController.becomes_perform call c).uuidOf h.project
  interfaces name hname := by
    obtain ⟨interface, hmem, hsame⟩ := h.interfaces name hname
    exact ⟨interface, (MemoryController.becomes_perform call c).interfaces_kept.subset hmem, hsame⟩

theorem ensures_allocate_smooth {nodes : List Node} (hnodes : nodes ≠ [])
    (huuid : s.controller.uuidOf request.projectId = some uuid) (h : Mendable engine request s) :
    Program.Ensures (conduct Turn.Smooth) Program.anyStep
      (fun result s' => (∃ interfaces, result = .ok interfaces) ∧
        Furnished engine request uuid s'.controller ∧ Agrees engine request.projectId (some uuid) s')
      (allocate engine ⟨uuid, request.dataIps, request.managementIp⟩ nodes).run s := by
  have hallocate := ensures_sound (ensures_uuidOf (ensures_allocate (T := Turn.Smooth) engine
    ⟨uuid, request.dataIps, request.managementIp⟩ nodes s) huuid)
    (fun _ _ _ _ hstep turn => hstep.unaltered turn _) h.sound
  refine (ensures_mendable hallocate h).imp ?_
  intro result s' hpost
  obtain ⟨⟨hallocated, huuid'⟩, hmendable⟩ := hpost
  obtain ⟨hok, hthere⟩ :=
    hallocated.settled (fun _ => Turn.Smooth.faultless) h.interfaces hnodes
  exact ⟨hok, {
    built := hmendable.built
    project := huuid'
    interfaces := hthere }, (sound_iff_agrees huuid').1 hmendable.sound⟩

/-- The account of a machine and the secret of a project hold the same password, which is not empty. -/
structure Held (engine : Settings.Engine) (project uuid : String) (credentials : Credentials)
    (s : Systems) : Prop where
  account : adminPassword engine uuid s = some credentials.password
  secret : ∃ record, storedSecret engine project s = some record ∧ record.credentials = credentials
  password : credentials.password ≠ ""

theorem ensures_reconcile_smooth {svm : Svm} (hrotate : engine.rotateOnMissingSecret = true)
    (hsvm : svm.uuid = some uuid) (hagrees : Agrees engine project (some uuid) s) :
    Program.Ensures (conduct Turn.Smooth) (credentialSteps engine project svm.uuid)
      (fun result s' => ∃ outcome, result = .ok outcome ∧ Held engine project uuid outcome.credentials s')
      (reconcile engine project svm).run s := by
  refine (ensures_reconcile engine project svm s).imp fun result s' hreconciled => ?_
  obtain ⟨outcome, rfl⟩ :=
    hreconciled.settled (fun _ => Turn.Smooth.faultless) hrotate (by rw [hsvm]; rfl)
  obtain ⟨record, hrecord, hcredentials, hpassword⟩ :=
    hreconciled.stored outcome rfl fun _ => Turn.Smooth.password_ne_empty
  have hsecret : secretPassword engine project s' = some record.credentials.password := by
    simp only [secretPassword_eq, hrecord, Option.filter_some, hpassword, if_true, Option.map_some]
  obtain ⟨_, howner, haccount⟩ := hreconciled.agrees (hsvm ▸ hagrees) _ hsecret
  cases hsvm.symm.trans howner
  rw [hcredentials] at haccount hpassword
  exact ⟨outcome, rfl, {
    account := haccount
    secret := ⟨record, hrecord, hcredentials⟩
    password := by simpa [Credentials.hasPassword] using hpassword }⟩

/-- Everything that a request asks for is there, for the machine with an identifier, and as the outcome of a
    run tells. -/
structure InPlace (engine : Settings.Engine) (request : Request) (outcome : Outcome) (uuid : String)
    (s : Systems) : Prop where
  /-- There is exactly one machine with the project's name. -/
  machine : ∃ machine, machine.svm.uuid = some uuid ∧
    s.controller.machines.entries.filter (fun entry => entry.2.svm.name == request.projectId) =
      [(request.projectId, machine)]
  svm : outcome.svm.uuid = some uuid
  interfaces : ∀ name ∈ plannedNames engine request.dataIps.length,
    ∃ interface ∈ s.controller.interfaces, interface.name = name ∧ interface.svmUuid = uuid
  credentials : Held engine request.projectId uuid outcome.credentials.credentials s

/-- A machine with an identifier is the only one with its name. -/
theorem machine_of_uuidOf {c : MemoryController} (hnamed : c.Named) (huuid : c.uuidOf project = some uuid) :
    ∃ machine, machine.svm.uuid = some uuid ∧
      c.machines.entries.filter (fun entry => entry.2.svm.name == project) = [(project, machine)] := by
  obtain ⟨machine, hmachine, hsame⟩ := MemoryController.find?_of_uuidOf huuid
  refine ⟨machine, hsame, SortedMap.filter_entries_of_find? hmachine fun entry hentry => ?_⟩
  rw [beq_iff_eq, (hnamed entry.1 entry.2 (SortedMap.find?_eq_some_iff.2 hentry)).1]

theorem Furnished.inPlace {outcome : Outcome} (h : Furnished engine request uuid s.controller)
    (hsvm : outcome.svm.uuid = some uuid)
    (hheld : Held engine request.projectId uuid outcome.credentials.credentials s) :
    InPlace engine request outcome uuid s where
  machine := machine_of_uuidOf h.built.named h.project
  svm := hsvm
  interfaces := h.interfaces
  credentials := hheld

theorem ensures_steps_smooth (hvalid : engine.validate = .ok ())
    (hrotate : engine.rotateOnMissingSecret = true) (hrequest : request.validate = .ok ())
    (h : Mendable engine request s) :
    Program.Ensures smooth Program.anyStep
      (fun result s' => ∃ outcome uuid, result = .ok outcome ∧ InPlace engine request outcome uuid s')
      (request.steps engine).run s := by
  refine ensures_steps (fun nodes s => nodes ≠ [] ∧ Mendable engine request s)
    (fun nodes svm _ s => nodes ≠ [] ∧ Mendable engine request s ∧
      ∃ uuid, svm.uuid = some uuid ∧ s.controller.uuidOf request.projectId = some uuid)
    (fun svm _ _ s => ∃ uuid, svm.uuid = some uuid ∧
      Furnished engine request uuid s.controller ∧ Agrees engine request.projectId (some uuid) s)
    ?_ ?_ ?_ ?_ ?_ ?_
  · intro failure hinvalid
    cases hrequest.symm.trans hinvalid
  · intro _
    have hselect := ensures_sound (ensures_selectNodes (T := Turn.Smooth) s)
      (fun _ _ _ _ hreads turn => .of_alike (hreads.alike turn _)) h.sound
    refine ensures_smooth _ ((ensures_mendable hselect h).imp fun result s₁ hpost => ?_)
    obtain ⟨hselected, hmendable⟩ := hpost
    obtain ⟨nodes, rfl⟩ := hselected.settled (fun _ => Turn.Smooth.faultless) h.nodes
    have hmany : minNodes ≤ nodes.length := (hselected.nodes nodes rfl).2
    refine Leads.of_ok ⟨?_, hmendable⟩
    intro hnone
    rw [hnone] at hmany
    exact absurd hmany (by decide)
  · intro nodes s₁ hselected
    obtain ⟨hnodes, hmendable₁⟩ := hselected
    have hidentified := ensures_sound (ensures_identified (T := Turn.Smooth) engine s₁)
      (fun _ _ _ _ hstep turn => hstep.unaltered turn _) hmendable₁.sound
    have hprovide := ensures_ensureSvm_smooth request.projectId
      (RetryPolicy.readiness_of_validate hvalid) hmendable₁.built.named hmendable₁.due
    refine (hprovide.and (ensures_smooth _ (ensures_mendable hidentified hmendable₁))).mono
      (fun _ _ _ _ _ => trivial) fun result s₂ hpost => ?_
    obtain ⟨⟨svm, created, rfl, hsome⟩, hproject, hmendable₂⟩ := hpost
    obtain ⟨uuid, huuid⟩ := Option.isSome_iff_exists.1 hsome
    exact Leads.of_ok ⟨hnodes, hmendable₂, uuid, huuid, hproject svm created rfl uuid huuid⟩
  · intro nodes svm created s₂ hprovided hnone
    obtain ⟨-, -, uuid, huuid, -⟩ := hprovided
    cases hnone.symm.trans huuid
  · intro nodes svm created s₂ hprovided uuid hsvm
    obtain ⟨hnodes, hmendable₂, owner, howner, huuid⟩ := hprovided
    obtain rfl : uuid = owner := Option.some.inj (hsvm.symm.trans howner)
    refine ensures_smooth _ ((ensures_allocate_smooth hnodes huuid hmendable₂).imp
      fun result s₃ hpost => ?_)
    obtain ⟨⟨interfaces, rfl⟩, hfurnished⟩ := hpost
    exact Leads.of_ok ⟨uuid, hsvm, hfurnished⟩
  · intro svm created interfaces s₃ hallocated
    obtain ⟨uuid, hsvm, hfurnished, hagrees⟩ := hallocated
    have hreconcile := ensures_keeps (Furnished engine request uuid)
      (fun call c hc => hc.called call) hfurnished (ensures_reconcile_smooth hrotate hsvm hagrees)
    refine ensures_smooth _ (hreconcile.imp fun result s₄ hpost => ?_)
    obtain ⟨⟨outcome, rfl, hheld⟩, hfurnished₄⟩ := hpost
    exact Leads.of_ok ⟨_, uuid, rfl, hfurnished₄.inPlace hsvm hheld⟩

/-- Surroundings are smooth for a run with which nothing goes wrong, if machines have different identifiers
    at its end. -/
theorem smooth_of_moves {α : Type} {attempt : Attempt α} {course : Course} (hsmooth : ∀ n, (course n).Smooth)
    (hdistinct : (s.run course attempt).2.controller.UuidsDistinct) :
    ∀ move ∈ s.moves course attempt, smooth move.op move.before move.answer move.after :=
  distinct_of_moves hsmooth hdistinct

/-- **A failed run is mended by another run.**  After any number of runs for a request, however they ended, a
    run with which nothing goes wrong succeeds, and everything is in place.  Machines stay, so identifiers that
    are distinct at the end were so all the time. -/
theorem inPlace_of_runs (hvalid : engine.validate = .ok ())
    (hrotate : engine.rotateOnMissingSecret = true) (hrequest : request.validate = .ok ())
    (h : Mendable engine request s) {earlier : List Attempted}
    (hearlier : ∀ run ∈ earlier, run.request = request) {course : Course}
    (hsmooth : ∀ n, (course n).Smooth)
    (hdistinct : (Attempted.after engine (earlier ++ [⟨request, course⟩]) s).controller.UuidsDistinct) :
    ∃ outcome uuid,
      Attempted.result engine ⟨request, course⟩ (Attempted.after engine earlier s) = .ok outcome ∧
        InPlace engine request outcome uuid
          (Attempted.after engine (earlier ++ [⟨request, course⟩]) s) := by
  have hmendable := Attempted.after_of_keeps (p := Mendable engine request)
    (fun s course h => h.run course) hearlier h
  rw [Attempted.after_snoc] at hdistinct ⊢
  have hensures : Program.Ensures smooth Program.anyStep
      (fun result s' => ∃ outcome uuid, result = .ok outcome ∧ InPlace engine request outcome uuid s')
      (request.provision engine).run (Attempted.after engine earlier s) := by
    unfold Request.provision
    rw [ExceptT.run_mk, Program.ensures_bind]
    refine (ensures_steps_smooth hvalid hrotate hrequest hmendable).imp fun result s' hplace => ?_
    rw [Program.ensures_bind]
    obtain ⟨outcome, uuid, rfl, hplace⟩ := hplace
    exact ensures_smooth Program.anyStep (ensures_count ⟨trivial, outcome, uuid, rfl, {
      machine := hplace.machine
      svm := hplace.svm
      interfaces := hplace.interfaces
      credentials := ⟨hplace.credentials.account, hplace.credentials.secret,
        hplace.credentials.password⟩ }⟩)
  exact hensures.run_along (smooth_of_moves hsmooth hdistinct)

/-- A run for the storage of a tenant in which nothing goes wrong. -/
def smoothRun : Attempted :=
  ⟨⟨"tenant-a", [.v4 ⟨10, 0, 0, 1⟩], .v4 ⟨10, 0, 0, 9⟩⟩, fun _ => ⟨none, false, "0aaaaaa0"⟩⟩

/-- The same run, but the account is created and reported as not created. -/
def lostRun : Attempted :=
  { smoothRun with course := fun n => ⟨if n = 16 then some (.after default) else none, false, "lost"⟩ }

/-- Systems with two nodes and nothing else. -/
def twoNodes : Systems :=
  ⟨.withNodes .initial [⟨"node-1", "n1"⟩, ⟨"node-2", "n2"⟩], .empty, 0⟩

theorem inPlace_of_lostRun :
    (default : Settings.Engine).validate = .ok () ∧
      (default : Settings.Engine).rotateOnMissingSecret = true ∧
      smoothRun.request.validate = .ok () ∧ Mendable default smoothRun.request twoNodes ∧
      (∀ n, (smoothRun.course n).Smooth) ∧
      (Attempted.after default ([lostRun] ++ [smoothRun]) twoNodes).controller.UuidsDistinct ∧
      (lostRun.result default twoNodes).isOk = false ∧
      ∃ outcome uuid,
        smoothRun.result default (Attempted.after default [lostRun] twoNodes) = .ok outcome ∧
          InPlace default smoothRun.request outcome uuid
            (Attempted.after default ([lostRun] ++ [smoothRun]) twoNodes) := by
  have hmendable : Mendable default smoothRun.request twoNodes := {
    built := .nodes .initial _
    nodes := by decide
    interfaces := rfl
    due := ⟨rfl, rfl⟩
    sound := .of_empty rfl }
  have hgenerated : Password.generate (List.replicate 15 0) = some ("0aaaaaa0", []) := by
    decide +kernel
  have hsmooth (n : Nat) : (smoothRun.course n).Smooth := {
    faultless := rfl
    cancelled := rfl
    generated := ⟨_, _, hgenerated⟩ }
  have hdistinct :
      (Attempted.after default ([lostRun] ++ [smoothRun]) twoNodes).controller.UuidsDistinct := by
    decide +kernel
  exact ⟨rfl, rfl, rfl, hmendable, hsmooth, hdistinct, by decide +kernel,
    inPlace_of_runs rfl rfl rfl hmendable (by simp [lostRun]) hsmooth hdistinct⟩

end TenantStorage.Provision
