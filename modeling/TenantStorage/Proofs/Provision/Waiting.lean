import TenantStorage.Proofs.Credentials.Agreement
import TenantStorage.Proofs.Provision.Steps

namespace TenantStorage.Provision

open Systems

/-!
# Nothing is done for a machine that is not ready

A run waits for a machine that it has ordered, and takes a machine that it has found as it is.  So its
interfaces, its account and its secret are for a machine that was reported ready, unless the machine of the
project was there from the start and was not ready.

* `touched?` — the machine for which an action creates an interface or an account, or writes a secret.
* `Orderly` — runs that touch only machines that were reported ready, and end with one.
* `SkipsWait` — runs that find the project's machine before it is ready, and get as far as to use it.
* `orderly_of_not_skipsWait`, `not_orderly_of_skipsWait` — the two are opposites.
* `orderly_runs_iff` — for all runs of a sequence.
-/

/-- The identifier of the machine for which an action creates an interface or an account, or writes a secret.
    The secret of a project belongs to the machine with the project's name. -/
def touched? (project : String) (s : Systems) (action : Action) : Option (Option String) :=
  match action.call? with
  | some (.controller (.createInterface interface)) => some (some interface.svmUuid)
  | some (.controller (.createAccount order)) => some (some order.ownerUuid)
  | some (.secrets (.create _)) | some (.secrets (.replace _)) =>
    some (MemoryController.uuidOf project s.controller)
  | _ => none

/-- A run touches only machines that were reported ready before, and ends with one that is. -/
structure Orderly (project : String) (result : Except Failure Outcome) (steps : Log) : Prop where
  ready : ∀ outcome, result = .ok outcome → outcome.svm.isReady = true
  reported : ∀ done move rest, steps = done ++ move :: rest → ∀ uuid?,
    touched? project move.before move.op = some uuid? → ∃ uuid, uuid? = some uuid ∧ Reported uuid done

/-- The promise that a step touches only machines that were reported ready before. -/
def touchesReported (project : String) : Program.Conduct actions (Systems × Log) :=
  fun action before _ _ => ∀ uuid?, touched? project before.1 action = some uuid? →
    ∃ uuid, uuid? = some uuid ∧ Reported uuid before.2

variable {T : Turn → Prop} {project uuid : String} {engine : Settings.Engine} {action : Action}
  {s : Systems}

/-! ### Which steps touch which machine -/

/-- What an action that touches a machine may be. -/
theorem touched_cases {uuid? : Option String} (h : touched? project s action = some uuid?) :
    (∃ interface, action.controllerCall? = some (.createInterface interface) ∧
        uuid? = some interface.svmUuid) ∨
      (∃ order, action.controllerCall? = some (.createAccount order) ∧
        uuid? = some order.ownerUuid) ∨
      (∃ key, action.secret? = some key) ∧ uuid? = MemoryController.uuidOf project s.controller := by
  unfold touched? at h
  split at h
  · rename_i interface hcall
    exact .inl ⟨interface, by rw [Action.controllerCall?, hcall], (Option.some.inj h).symm⟩
  · rename_i order hcall
    exact .inr (.inl ⟨order, by rw [Action.controllerCall?, hcall], (Option.some.inj h).symm⟩)
  · rename_i record hcall
    refine .inr (.inr ⟨⟨MemorySecrets.keyOf record, ?_⟩, (Option.some.inj h).symm⟩)
    rw [Action.secret?, Action.secretCall?, hcall]
    rfl
  · rename_i record hcall
    refine .inr (.inr ⟨⟨MemorySecrets.keyOf record, ?_⟩, (Option.some.inj h).symm⟩)
    rw [Action.secret?, Action.secretCall?, hcall]
    rfl
  · cases h

theorem MachineStep.touched? (h : MachineStep project action) (s : Systems) :
    touched? project s action = none := by
  rw [Option.eq_none_iff_forall_ne_some]
  intro uuid? htouched
  rcases touched_cases htouched with ⟨interface, hcall, -⟩ | ⟨order, hcall, -⟩ | ⟨⟨key, hkey⟩, -⟩
  · cases h.part .interfaces (by rw [Action.part?, hcall]; rfl)
  · cases h.part .accounts (by rw [Action.part?, hcall]; rfl)
  · cases h.secret.symm.trans hkey

theorem InterfaceStep.touched? (h : InterfaceStep uuid action) {uuid? : Option String}
    (htouched : touched? project s action = some uuid?) : uuid? = some uuid := by
  rcases touched_cases htouched with ⟨interface, hcall, howner⟩ | ⟨order, hcall, -⟩ | ⟨⟨key, hkey⟩, -⟩
  · rw [howner, h.owner interface hcall]
  · cases h.part .accounts (by rw [Action.part?, hcall]; rfl)
  · cases h.secret.symm.trans hkey

theorem CredentialStep.touched? (h : CredentialStep engine project (some uuid) action s)
    (hproject : MemoryController.uuidOf project s.controller = some uuid) {uuid? : Option String}
    (htouched : touched? project s action = some uuid?) : uuid? = some uuid := by
  rcases touched_cases htouched with ⟨interface, hcall, -⟩ | ⟨order, hcall, howner⟩ | ⟨-, howner⟩
  · cases h.part .interfaces (by rw [Action.part?, hcall]; rfl)
  · obtain ⟨hfirst, -, -⟩ := h.account ⟨order.ownerUuid, order.credentials.username⟩
      (by rw [Action.account?, hcall]; rfl)
    exact howner.trans hfirst.symm
  · exact howner.trans hproject

/-! ### A run that waits -/

/-- A run finds the machine of the project before it is ready, and gets as far as to use it. -/
def SkipsWait (request : Request) (s : Systems) : Prop :=
  request.validate = .ok () ∧ minNodes ≤ (distinctNodes s.controller.nodes).length ∧
    ∃ svm, s.controller.svmByName request.projectId = some svm ∧ svm.uuid.isSome = true ∧
      svm.isReady = false

/-- Steps for a machine that was reported ready touch only a machine that was. -/
theorem ensures_touchesReported {α : Type} {attempt : Attempt α} {guarantee : Program.Conduct actions Systems}
    {post : Except Failure α → Systems → Prop} {log : Log}
    (h : Program.Ensures (conduct T) guarantee post attempt.run s)
    (hproject : MemoryController.uuidOf project s.controller = some uuid) (hreported : Reported uuid log)
    (htouched : ∀ action s answer s', guarantee action s answer s' →
      MemoryController.uuidOf project s.controller = some uuid → ∀ uuid?,
        touched? project s action = some uuid? → uuid? = some uuid) :
    Program.Ensures (Program.logged (conduct T)) (touchesReported project)
      (fun _ after => MemoryController.uuidOf project after.1.controller = some uuid ∧
        Reported uuid after.2) attempt.run (s, log) := by
  -- the machine stays the project's at every step
  have hkept := h.keep (fun s => MemoryController.uuidOf project s.controller = some uuid) hproject
    fun action s answer s' hconduct _ huuid => uuidOf_conduct hconduct huuid
  refine (hkept.logged log).mono ?_ ?_
  · rintro action ⟨s, log'⟩ answer after ⟨⟨hstep, huuid⟩, hlog⟩ uuid? hsome
    exact ⟨uuid, htouched action s answer _ hstep huuid uuid? hsome, hreported.mono hlog⟩
  · intro result after hpost
    obtain ⟨⟨-, huuid⟩, steps, hlog, -⟩ := hpost
    exact ⟨huuid, hreported.mono (hlog ▸ List.prefix_append _ _)⟩

/-- Steps that touch no machine. -/
theorem touchesReported_of_machineStep (h : MachineStep project action) {before : Systems × Log} :
    ∀ uuid?, touched? project before.1 action = some uuid? →
      ∃ uuid, uuid? = some uuid ∧ Reported uuid before.2 := by
  intro uuid? htouched
  cases (h.touched? before.1).symm.trans htouched

theorem ensures_steps_orderly (engine : Settings.Engine) {request : Request}
    (hwait : ¬ SkipsWait request s) :
    Program.Ensures (Program.logged (conduct T)) (touchesReported request.projectId)
      (fun result _ => ∀ outcome, result = .ok outcome → outcome.svm.isReady = true)
      (request.steps engine).run (s, []) := by
  have hfailed (told : Failure) (outcome : Outcome) (hok : .error told = Except.ok outcome) :
      outcome.svm.isReady = true := by
    cases hok
  refine ensures_steps
    (fun _ after => Alike s after.1 ∧ request.validate = .ok () ∧
      minNodes ≤ (distinctNodes s.controller.nodes).length)
    (fun _ svm _ after => svm.uuid.isSome = true → Ready request.projectId svm after)
    (fun svm _ _ after => svm.isReady = true ∧ ∃ uuid, svm.uuid = some uuid ∧
      MemoryController.uuidOf request.projectId after.1.controller = some uuid ∧ Reported uuid after.2)
    (fun failure _ => hfailed failure) ?_ ?_ (fun _ _ _ _ _ _ => hfailed) ?_ ?_
  · intro hvalid
    refine ((ensures_selectNodes s).logged []).mono ?_ fun result after hpost => ?_
    · exact fun _ _ _ _ hstep => touchesReported_of_machineStep (.of_reads hstep.1)
    · obtain ⟨hselected, -⟩ := hpost
      refine ⟨fun nodes hnodes => ⟨hselected.alike, hvalid, ?_⟩, fun _ _ => hfailed⟩
      obtain ⟨rfl, hmany⟩ := hselected.nodes nodes hnodes
      exact hmany
  · rintro nodes ⟨s₁, log₁⟩ ⟨halike, hvalid, hmany⟩
    -- what the hypothesis says of the start still holds, since only nodes were listed
    have hready (svm : Svm) (hsvm : s₁.controller.svmByName request.projectId = some svm)
        (huuid : svm.uuid.isSome = true) : svm.isReady = true := by
      rw [MemoryController.svmByName, halike.machines] at hsvm
      cases hunready : svm.isReady with
      | true => rfl
      | false => exact absurd ⟨hvalid, hmany, svm, hsvm, huuid, hunready⟩ hwait
    refine (ensures_ensureSvm engine s₁ log₁).mono ?_ fun result after hprovided => ?_
    · exact fun _ _ _ _ hstep => touchesReported_of_machineStep hstep
    · refine ⟨fun provided hok huuid => ?_, fun _ _ => hfailed⟩
      obtain ⟨svm, created⟩ := provided
      have hsvm := hprovided svm created hok
      apply hsvm.ready
      -- a machine that was ordered was waited for; one that was found is ready by the hypothesis
      cases created with
      | true => exact .inl rfl
      | false => exact .inr (hready svm (hsvm.found rfl) huuid)
  · rintro nodes svm created ⟨s₂, log₂⟩ hprovided uuid huuid
    have hready : Ready request.projectId svm (s₂, log₂) := hprovided (by rw [huuid]; rfl)
    -- from here on only this machine is touched
    refine (ensures_touchesReported (ensures_allocate engine _ nodes s₂)
      (hready.identified uuid huuid) (hready.reported uuid huuid)
      fun _ _ _ _ hstep _ _ => hstep.touched?).imp fun result after hpost => ?_
    exact ⟨fun _ _ => ⟨hready.ready, uuid, huuid, hpost⟩, fun _ _ => hfailed⟩
  · rintro svm created interfaces ⟨s₃, log₃⟩ ⟨hready, uuid, huuid, hidentified, hreported⟩
    have hreconcile := ensures_reconcile (T := T) engine request.projectId svm s₃
    rw [huuid] at hreconcile
    refine (ensures_touchesReported hreconcile hidentified hreported
      fun _ _ _ _ hstep huuid _ => hstep.touched? huuid).imp fun result after _ => ?_
    refine ⟨fun credentials _ outcome hok => ?_, fun _ _ => hfailed⟩
    cases hok
    exact hready

/-- A run that does not skip the wait is orderly, whatever befalls it. -/
theorem orderly_of_not_skipsWait (engine : Settings.Engine) {request : Request} (course : Course)
    (hwait : ¬ SkipsWait request s) :
    Orderly request.projectId (s.run course (request.provision engine)).1
      (s.moves course (request.provision engine)) := by
  have hensures : Program.Ensures (Program.logged (conduct fun _ => True))
      (touchesReported request.projectId)
      (fun result _ => ∀ outcome, result = .ok outcome → outcome.svm.isReady = true)
      (request.provision engine).run (s, []) := by
    unfold Request.provision
    rw [ExceptT.run_mk, Program.ensures_bind]
    refine (ensures_steps_orderly engine hwait).imp fun result after hready => ?_
    rw [Program.ensures_bind]
    refine logged_action fun _ s' _ => ⟨touchesReported_of_machineStep (.of_reads ⟨rfl, rfl⟩), ?_⟩
    exact hready
  obtain ⟨hready, hsteps⟩ := hensures.run_logged (handle_conduct fun n => trivial)
  exact {
    ready := hready
    reported := hsteps }

/-! ### A run that skips the wait -/

/-- No machine that is ready has been shown. -/
def Unreported (log : Log) : Prop :=
  ∀ move ∈ log, ∀ svm, shown? move.op move.answer = some svm → svm.isReady = false

/-- A machine has been touched that was not reported ready before. -/
def Rushed (project : String) (log : Log) : Prop :=
  ∃ done move rest uuid, log = done ++ move :: rest ∧
    touched? project move.before move.op = some (some uuid) ∧ ¬ Reported uuid done

theorem Unreported.not_reported {log : Log} (h : Unreported log) (uuid : String) :
    ¬ Reported uuid log := by
  intro hreported
  obtain ⟨move, hmove, svm, hshown, hready, -⟩ := hreported
  cases (h move hmove svm hshown).symm.trans hready

/-- A step that shows no machine that is ready. -/
theorem Unreported.snoc {log : Log} (h : Unreported log) {move : Program.Move actions Systems}
    (hmove : ∀ svm, shown? move.op move.answer = some svm → svm.isReady = false) :
    Unreported (log ++ [move]) := by
  intro other hmem
  rcases List.mem_append.1 hmem with hmem | hmem
  · exact h other hmem
  · obtain rfl := List.mem_singleton.1 hmem
    exact hmove

/-- What has been rushed stays so, whatever comes after it. -/
theorem Rushed.ensures {α : Type} {log : Log} (h : Rushed project log) (p : Engine α) (s : Systems) :
    p.Ensures (Program.logged (conduct T)) Program.anyStep (fun _ after => Rushed project after.2)
      (s, log) := by
  have hany : p.Ensures (conduct T) Program.anyStep (fun _ _ => True) s :=
    .of_step (fun _ _ _ _ _ => trivial) p s
  refine (hany.logged log).mono (fun _ _ _ _ _ => trivial) ?_
  intro value after hpost
  obtain ⟨-, steps, hlog, -⟩ := hpost
  obtain ⟨done, move, rest, uuid, rfl, htouched, hunreported⟩ := h
  exact ⟨done, move, rest ++ steps, uuid, by simpa using hlog, htouched, hunreported⟩

/-- A program that begins with touching a machine, when none was reported ready. -/
theorem ensures_rush {α : Type} {resume : action.Answer → Engine α} {log : Log}
    (htouched : touched? project s action = some (some uuid)) (hlog : Unreported log) :
    Program.Ensures (S := actions) (Program.logged (conduct T)) Program.anyStep
      (fun _ after => Rushed project after.2) (.ask action resume) (s, log) := by
  rintro answer ⟨s', log'⟩ ⟨-, hlog'⟩
  exact ⟨trivial, Rushed.ensures ⟨log, _, [], uuid, hlog', htouched, hlog.not_reported uuid⟩ _ _⟩

/-- A call that reads, and shows no machine that is ready, without mishaps. -/
theorem logged_read {call : ControllerCall} {value : call.Answer} {log : Log}
    (hreads : Reads (.call (.controller call)))
    (hshown : ∀ svm, shown? (.call (.controller call)) (.ok value) = some svm → svm.isReady = false)
    (hvalue : (s.controller.perform call).1 = .ok value) (hlog : Unreported log) :
    Program.Ensures (Program.logged (conduct Turn.Faultless)) Program.anyStep
      (fun result after => result = .ok value ∧ Alike s after.1 ∧ Unreported after.2)
      (Engine.controller call).run (s, log) := by
  refine logged_action fun answer s' hcall => ⟨trivial, ?_⟩
  obtain ⟨turn, hturn, hpair⟩ := hcall
  obtain ⟨hanswer, rfl⟩ := Prod.mk.inj hpair
  have hattend : (s.attend turn.mishap (.controller call)).1 = .ok value := by
    rw [attend_of_faultless hturn]
    exact hvalue
  obtain rfl : answer = .ok value := hanswer.trans hattend
  exact ⟨rfl, hreads.alike turn s, hlog.snoc hshown⟩

/-- The first interface is created for a machine that was not reported ready. -/
theorem ensures_allocate_rushed (project : String) {engine : Settings.Engine} {request : EndpointRequest}
    {nodes : List Node} (hnodes : nodes ≠ []) (hips : request.dataIps ≠ []) {log : Log}
    (hlog : Unreported log) (s : Systems) :
    Program.Ensures (Program.logged (conduct Turn.Faultless)) Program.anyStep
      (fun _ after => Rushed project after.2) (allocate engine request nodes).run (s, log) := by
  rw [allocate, probeAddressing]
  refine Program.Ensures.attempt (fun result after => (∃ mode, result = .ok mode) ∧
    Unreported after.2) ?_ ?_ ?_
  · refine Program.Ensures.attempt _ (logged_read ⟨rfl, rfl⟩ (by rintro svm ⟨⟩) rfl hlog) ?_ ?_
    · intro count after hpost
      obtain ⟨-, -, hlog₁⟩ := hpost
      exact ⟨⟨_, rfl⟩, hlog₁⟩
    · intro failure after hpost
      obtain ⟨herror, -⟩ := hpost
      cases herror
  · rintro mode ⟨s₁, log₁⟩ ⟨-, hlog₁⟩
    obtain ⟨first, rest, rfl⟩ := List.exists_cons_of_ne_nil hnodes
    obtain ⟨ip, ips, hips⟩ := List.exists_cons_of_ne_nil hips
    rw [EndpointRequest.plan, hips, dataEndpoints]
    refine Program.Ensures.check ?_ (by rintro failure ⟨⟩)
    intro interfaces hok
    cases hok
    -- the plan is not empty, and its first interface is created right away
    exact ensures_rush rfl hlog₁
  · intro failure after hpost
    obtain ⟨⟨mode, herror⟩, -⟩ := hpost
    cases herror

/-- A valid request has data addresses. -/
theorem dataIps_of_validate {request : Request} (h : request.validate = .ok ()) :
    request.dataIps ≠ [] := by
  intro hnone
  rw [Request.validate, hnone] at h
  simp only [List.isEmpty_nil, if_true] at h
  split at h
  · cases h
  · split at h <;> cases h

theorem ensures_steps_rushed (engine : Settings.Engine) {request : Request}
    (hskips : SkipsWait request s) :
    Program.Ensures (Program.logged (conduct Turn.Faultless)) Program.anyStep
      (fun _ after => Rushed request.projectId after.2) (request.steps engine).run (s, []) := by
  obtain ⟨hvalid, hmany, svm, hsvm, huuid, hunready⟩ := hskips
  obtain ⟨uuid, huuid⟩ := Option.isSome_iff_exists.1 huuid
  refine ensures_steps
    (fun nodes after => nodes ≠ [] ∧ Alike s after.1 ∧ Unreported after.2)
    (fun nodes found _ after => nodes ≠ [] ∧ found = svm ∧ Unreported after.2)
    (fun _ _ _ after => Rushed request.projectId after.2) ?_ ?_ ?_ ?_ ?_ ?_
  · intro failure hinvalid
    cases hvalid.symm.trans hinvalid
  · intro _
    have hstart : Unreported [] := by
      intro move hmove
      cases hmove
    unfold selectNodes
    refine Program.Ensures.attempt _
      (logged_read ⟨rfl, rfl⟩ (by rintro svm ⟨⟩) rfl hstart) ?_ ?_
    · rintro nodes after ⟨hnodes, halike, hlog⟩
      obtain rfl : nodes = s.controller.nodes := Except.ok.inj hnodes
      simp only [Nat.not_lt.2 hmany, if_false]
      refine Leads.of_ok ⟨?_, halike, hlog⟩
      intro hnone
      rw [hnone] at hmany
      exact absurd hmany (by decide)
    · rintro failure after ⟨herror, -⟩
      cases herror
  · rintro nodes ⟨s₁, log₁⟩ ⟨hnodes, halike, hlog₁⟩
    have hfound : (s₁.controller.perform (.svmByName request.projectId)).1 = .ok (some svm) := by
      rw [← hsvm, MemoryController.svmByName, ← halike.machines]
      rfl
    unfold ensureSvm
    refine Program.Ensures.attempt (fun result after => result = .ok (some svm) ∧
      Unreported after.2) ?_ ?_ ?_
    · refine ensures_within ((logged_read ⟨rfl, rfl⟩ ?_ hfound hlog₁).imp ?_)
      · rintro _ ⟨⟩
        exact hunready
      · rintro _ after ⟨rfl, -, hlog₂⟩
        exact ⟨rfl, hlog₂⟩
    · rintro _ after ⟨hok, hlog₂⟩
      cases hok
      exact Leads.of_ok ⟨hnodes, rfl, hlog₂⟩
    · rintro failure after ⟨herror, -⟩
      cases herror
  · rintro nodes found created after ⟨-, rfl, -⟩ hnone
    cases hnone.symm.trans huuid
  · rintro nodes found created ⟨s₂, log₂⟩ ⟨hnodes, rfl, hlog₂⟩ owner howner
    refine (ensures_allocate_rushed request.projectId hnodes (dataIps_of_validate hvalid) hlog₂ s₂).imp
      fun result after hrushed => ?_
    exact ⟨fun _ _ => hrushed, fun _ _ _ => hrushed⟩
  · rintro found created interfaces after hrushed
    refine (hrushed.ensures _ _).imp fun result after' hrushed' => ?_
    exact ⟨fun _ _ => hrushed', fun _ _ _ => hrushed'⟩

/-- A run that skips the wait, and meets with no mishap, touches a machine that is not ready. -/
theorem not_orderly_of_skipsWait (engine : Settings.Engine) {request : Request} {course : Course}
    (hfaultless : ∀ n, (course n).Faultless) (hskips : SkipsWait request s) :
    ¬ Orderly request.projectId (s.run course (request.provision engine)).1
      (s.moves course (request.provision engine)) := by
  have hensures : Program.Ensures (Program.logged (conduct Turn.Faultless)) Program.anyStep
      (fun _ after => Rushed request.projectId after.2) (request.provision engine).run (s, []) := by
    unfold Request.provision
    rw [ExceptT.run_mk, Program.ensures_bind]
    exact (ensures_steps_rushed engine hskips).imp fun result after hrushed => hrushed.ensures _ _
  obtain ⟨done, move, rest, uuid, hsteps, htouched, hunreported⟩ :=
    (hensures.run_logged (handle_conduct hfaultless)).1
  intro horderly
  obtain ⟨_, huuid, hreported⟩ := horderly.reported done move rest hsteps (some uuid) htouched
  cases huuid
  exact hunreported hreported

/-! ### Sequences of runs -/

/-- **Nothing is done for a machine that is not ready**, in any run of a sequence, exactly if none of the runs
    finds the machine of its project there before it is ready. -/
theorem orderly_runs_iff (engine : Settings.Engine) {runs : List Attempted}
    (hfaultless : ∀ run ∈ runs, ∀ n, (run.course n).Faultless) (s : Systems) :
    (∀ earlier run later, runs = earlier ++ run :: later →
      Orderly run.request.projectId (run.result engine (Attempted.after engine earlier s))
        (run.moves engine (Attempted.after engine earlier s))) ↔
      ∀ earlier run later, runs = earlier ++ run :: later →
        ¬ SkipsWait run.request (Attempted.after engine earlier s) := by
  constructor
  · intro horderly earlier run later hruns hskips
    have hmem : run ∈ runs := by simp [hruns]
    exact not_orderly_of_skipsWait engine (hfaultless run hmem) hskips (horderly earlier run later hruns)
  · intro hwaits earlier run later hruns
    exact orderly_of_not_skipsWait engine run.course (hwaits earlier run later hruns)

/-- Systems in which a new machine never comes up. -/
def neverUp : Systems :=
  ⟨(MemoryController.initial.withNodes [⟨"node-1", "n1"⟩, ⟨"node-2", "n2"⟩]).neverReady, .empty, 0⟩

/-- A run with which nothing goes wrong. -/
def plainRun : Attempted :=
  ⟨⟨"tenant-a", [.v4 ⟨10, 0, 0, 1⟩], .v4 ⟨10, 0, 0, 9⟩⟩, fun _ => ⟨none, false, "aB3dE6gH"⟩⟩

/-- The first run waits in vain for the machine that it has ordered.  The second finds the machine, and
    succeeds with it as it is. -/
theorem plainRun_succeeds_unready :
    plainRun.request.validate = .ok () ∧
      (match plainRun.result default neverUp with
        | .error failure => some failure.root
        | .ok _ => none) =
        some (.readinessTimeout "tenant-a" 10 "svm tenant-a is in state creating") ∧
      (match plainRun.result default (Attempted.after default [plainRun] neverUp) with
        | .error _ => none
        | .ok outcome => some outcome.svm.isReady) = some false := by
  refine ⟨rfl, ?_, ?_⟩ <;> decide +kernel

theorem orderly_plainRuns_iff :
    (∀ run ∈ [plainRun, plainRun], ∀ n, (run.course n).Faultless) ∧
      ((∀ earlier run later, [plainRun, plainRun] = earlier ++ run :: later →
        Orderly run.request.projectId (run.result default (Attempted.after default earlier neverUp))
          (run.moves default (Attempted.after default earlier neverUp))) ↔
        ∀ earlier run later, [plainRun, plainRun] = earlier ++ run :: later →
          ¬ SkipsWait run.request (Attempted.after default earlier neverUp)) := by
  have hfaultless : ∀ run ∈ [plainRun, plainRun], ∀ n, (run.course n).Faultless := by
    intro run hmem n
    simp only [List.mem_cons, List.not_mem_nil, or_false, or_self] at hmem
    rw [hmem]
    rfl
  exact ⟨hfaultless, orderly_runs_iff default hfaultless neverUp⟩

end TenantStorage.Provision
