import TenantStorage.Proofs.Credentials.Steps
import TenantStorage.Proofs.Memory.Machines
import TenantStorage.Proofs.Readiness
import TenantStorage.Provision.Run

namespace TenantStorage

open Systems

/-!
# What each step of a provisioning run does

One statement for each part of a run before the credentials, in both systems in memory, whatever befalls its
calls.

* `Systems.Alike`, `Systems.Reads` — what an action that only reads leaves as it was.
* `distinct`, `distinct_of_moves` — surroundings in which machines have different identifiers.
* `ensures_selection` — the nodes, from any answer; `ensures_selectNodes` — those that there are.
* `MachineStep`, `ensures_awaitSvm`, `ensures_orderSvm`, `ensures_ensureSvm` — the machine.
* `InterfaceStep`, `ensures_createInterfaces`, `ensures_allocate` — the interfaces.
* `Leads`, `ensures_steps` — the parts in their order.
* `ensures_ensureSvm_found`, `ensures_provision_found` — when the machine is there.
* `Attempted` — runs one after another.
-/

/-! ### Reading -/

namespace Systems

/-- Two states that differ in nothing but tallies. -/
structure Alike (s s' : Systems) : Prop where
  setup : s.controller.SameSetup s'.controller
  machines : s'.controller.machines = s.controller.machines
  assigned : s'.controller.assigned = s.controller.assigned
  interfaces : s'.controller.interfaces = s.controller.interfaces
  accounts : s'.controller.accounts = s.controller.accounts
  records : s'.secrets.records = s.secrets.records

theorem Alike.tick (s : Systems) : Alike s s.tick := ⟨.refl _, rfl, rfl, rfl, rfl, rfl⟩

/-- An action that writes nothing. -/
structure Reads (action : Action) : Prop where
  part : action.part? = none
  secret : action.secret? = none

theorem Reads.alike {action : Action} (h : Reads action) (turn : Turn) (s : Systems) :
    Alike s (s.answer turn action).2 where
  setup := sameSetup_answer turn action s
  machines := (machines_answer turn action (by simp [h.part])).1
  assigned := (machines_answer turn action (by simp [h.part])).2
  interfaces := interfaces_answer turn action (by simp [h.part])
  accounts := accounts_answer turn action (by simp [h.part])
  records := records_answer turn action h.secret

theorem Reads.alike_of_conduct {T : Turn → Prop} {action : Action} {answer : action.Answer} {s s' : Systems}
    (h : Reads action) (hconduct : conduct T action s answer s') : Alike s s' := by
  obtain ⟨turn, -, hpair⟩ := hconduct
  obtain ⟨-, rfl⟩ := Prod.mk.inj hpair
  exact h.alike turn s

/-- What no call to the controller undoes holds when a program ends, if it held before. -/
theorem ensures_keeps {T : Turn → Prop} {α : Type} {p : Engine α}
    {guarantee : Program.Conduct actions Systems} {post : α → Systems → Prop} {s : Systems}
    (keeps : MemoryController → Prop) (hkeeps : ∀ call c, keeps c → keeps (c.perform call).2)
    (hstart : keeps s.controller) (h : p.Ensures (conduct T) guarantee post s) :
    p.Ensures (conduct T) guarantee (fun value s' => post value s' ∧ keeps s'.controller) s := by
  refine (h.keep (fun s => keeps s.controller) hstart ?_).mono (fun _ _ _ _ => And.left) fun _ _ => id
  rintro action s answer s' ⟨turn, -, hpair⟩ - hs
  obtain ⟨-, rfl⟩ := Prod.mk.inj hpair
  exact controller_answer_of turn action hs fun call _ => hkeeps call _ hs

/-- The promise that every step reads. -/
def readings : Program.Conduct actions Systems := fun action _ _ _ => Reads action

/-- A call that reads leaves the systems alike, and returns what there is unless something goes wrong. -/
theorem ensures_read {T : Turn → Prop} {call : ControllerCall} {value : call.Answer} {s : Systems}
    (hreads : Reads (.call (.controller call))) (hvalue : (s.controller.perform call).1 = .ok value) :
    Program.Ensures (conduct T) readings
      (fun result s' => Alike s s' ∧ (∀ found, result = .ok found → found = value) ∧
        ((∀ turn, T turn → turn.Faultless) → result = .ok value))
      (Engine.controller call).run s := by
  refine ensures_call fun turn hturn => ⟨hreads, hreads.alike turn s, ?_, ?_⟩
  · intro found hfound
    exact Except.ok.inj ((attend_of_ok hfound).1.symm.trans hvalue)
  · intro hcalm
    rw [attend_of_faultless (hcalm turn hturn)]
    exact hvalue

end Systems

namespace Provision

variable {T : Turn → Prop} {project : String} {engine : Settings.Engine}

/-- A failure that is told more about is still a failure. -/
theorem ensures_within {σ α : Type} {conduct guarantee : Program.Conduct actions σ}
    {post : Except Failure α → σ → Prop} {attempt : Attempt α} {operation : String} {s : σ}
    (h : Program.Ensures conduct guarantee
      (fun result => post (result.mapError (.context project operation))) attempt.run s) :
    Program.Ensures conduct guarantee post (Engine.within project operation attempt).run s := by
  rw [Engine.within, ExceptT.run_mk, Program.ensures_bind]
  exact h

/-- The identifier of a machine is resolved where it has one. -/
theorem ensures_requireUuid {σ : Type} {conduct guarantee : Program.Conduct actions σ} {operation : String}
    (svm : Svm) (s : σ) :
    Program.Ensures conduct guarantee
      (fun result s' => s = s' ∧ ∀ uuid, result = .ok uuid ↔ svm.uuid = some uuid)
      (Engine.within project operation (liftM (requireUuid svm))).run s := by
  refine ensures_within ⟨rfl, fun uuid => ?_⟩
  rw [← requireUuid_eq_ok_iff]
  cases requireUuid svm with
  | ok found => exact Iff.rfl
  | error failure => exact ⟨by rintro ⟨⟩, by rintro ⟨⟩⟩

/-- What is selected of a listing. -/
def selectionOf (nodes : List Node) : Except Failure (List Node) :=
  if (distinctNodes nodes).length < minNodes then
    .error (.insufficientNodes (distinctNodes nodes).length minNodes)
  else .ok (distinctNodes nodes)

/-- The selection is one call, and what is made of its answer. -/
theorem ensures_selection {σ : Type} {conduct guarantee : Program.Conduct actions σ}
    {post : Except Failure (List Node) → σ → Prop} {s : σ}
    (h : Program.Ensures conduct guarantee (fun result => post (result.bind selectionOf))
      (Engine.controller .nodes).run s) :
    Program.Ensures conduct guarantee post selectNodes.run s := by
  unfold selectNodes
  refine Program.Ensures.attempt _ h (fun nodes s' hpost => ?_) fun failure s' hpost => hpost
  simp only [Except.bind, selectionOf] at hpost
  split at hpost <;> simp only [*, if_true, if_false] <;> exact hpost

/-- What the selection of nodes comes to. -/
structure Selected (T : Turn → Prop) (s : Systems) (result : Except Failure (List Node))
    (s' : Systems) : Prop where
  alike : Alike s s'
  nodes : ∀ nodes, result = .ok nodes →
    nodes = distinctNodes s.controller.nodes ∧ minNodes ≤ nodes.length
  settled : (∀ turn, T turn → turn.Faultless) →
    minNodes ≤ (distinctNodes s.controller.nodes).length → ∃ nodes, result = .ok nodes

theorem ensures_selectNodes (s : Systems) :
    Program.Ensures (conduct T) readings (Selected T s) selectNodes.run s := by
  refine ensures_selection ((ensures_read ⟨rfl, rfl⟩ rfl).imp fun result s' hpost => ?_)
  obtain ⟨halike, hnodes, hanswered⟩ := hpost
  cases result with
  | ok nodes =>
    obtain rfl := hnodes nodes rfl
    by_cases hfew : (distinctNodes s.controller.nodes).length < minNodes
    · simp only [Except.bind, selectionOf, hfew, if_true]
      exact {
        alike := halike
        nodes := by rintro nodes ⟨⟩
        settled := fun _ hmany => by omega }
    · simp only [Except.bind, selectionOf, hfew, if_false]
      exact {
        alike := halike
        nodes := by
          intro nodes hok
          cases hok
          exact ⟨rfl, by omega⟩
        settled := fun _ _ => ⟨_, rfl⟩ }
  | error failure =>
    exact {
      alike := halike
      nodes := by rintro nodes ⟨⟩
      settled := fun hcalm _ => by cases hanswered hcalm }

/-! ### The machine -/

/-- The steps of a run so far. -/
abbrev Log := List (Program.Move actions Systems)

/-- The rule for an action, with a log. -/
theorem logged_action {action : Action} {guarantee : Program.Conduct actions (Systems × Log)}
    {post : action.Answer → Systems × Log → Prop} {s : Systems} {log : Log}
    (h : ∀ answer s', conduct T action s answer s' →
      guarantee action (s, log) answer (s', log ++ [⟨s, action, answer, s'⟩]) ∧
        post answer (s', log ++ [⟨s, action, answer, s'⟩])) :
    Program.Ensures (Program.logged (conduct T)) guarantee post
      (Program.perform (S := actions) action) (s, log) := by
  rintro answer ⟨s', log'⟩ ⟨hconduct, hlog⟩
  obtain rfl : log' = log ++ [⟨s, action, answer, s'⟩] := hlog
  exact h answer s' hconduct

/-- The machine that an answer shows. -/
def shown? : (action : Action) → action.Answer → Option Svm
  | .call (.controller (.svmByName _)), .ok found => found
  | .call (.controller (.svm _)), .ok svm => some svm
  | .watch (.controller (.svmByName _)), some (.ok found) => found
  | .watch (.controller (.svm _)), some (.ok svm) => some svm
  | _, _ => none

/-- The controller has shown a machine with this identifier that is ready. -/
def Reported (uuid : String) (log : Log) : Prop :=
  ∃ move ∈ log, ∃ svm, shown? move.op move.answer = some svm ∧ svm.isReady = true ∧
    svm.uuid = some uuid

theorem Reported.mono {uuid : String} {log log' : Log} (h : Reported uuid log) (hlog : log <+: log') :
    Reported uuid log' := by
  obtain ⟨move, hmove, hshown⟩ := h
  exact ⟨move, hlog.subset hmove, hshown⟩

/-- A step that may be taken for a machine: it reads, looks at a machine, or orders the project's. -/
structure MachineStep (project : String) (action : Action) : Prop where
  part : ∀ part, action.part? = some part → part = .machines
  secret : action.secret? = none
  order : ∀ order, action.controllerCall? = some (.createSvm order) → order.name = project

theorem MachineStep.of_reads {action : Action} (h : Reads action) : MachineStep project action where
  part part hpart := by cases h.part.symm.trans hpart
  secret := h.secret
  order order horder := by
    have hpart := h.part
    rw [Action.part?, horder] at hpart
    cases hpart

/-- The promise that every step is a `MachineStep`. -/
def machineSteps {σ : Type} (project : String) : Program.Conduct actions σ :=
  fun action _ _ _ => MachineStep project action

/-- A machine that is ready, was reported so, and is the project's. -/
structure Ready (project : String) (svm : Svm) (after : Systems × Log) : Prop where
  ready : svm.isReady = true
  reported : ∀ uuid, svm.uuid = some uuid → Reported uuid after.2
  identified : ∀ uuid, svm.uuid = some uuid →
    MemoryController.uuidOf project after.1.controller = some uuid

/-- The identifier of a machine stays. -/
theorem uuidOf_conduct {action : Action} {answer : action.Answer} {s s' : Systems} {uuid : String}
    (h : conduct T action s answer s')
    (huuid : MemoryController.uuidOf project s.controller = some uuid) :
    MemoryController.uuidOf project s'.controller = some uuid := by
  obtain ⟨turn, -, hpair⟩ := h
  obtain ⟨-, rfl⟩ := Prod.mk.inj hpair
  exact controller_answer_of turn action (p := fun c => MemoryController.uuidOf project c = some uuid) huuid
    fun call _ => (MemoryController.becomes_perform call _).uuidOf huuid

/-- A machine stays as it is while machines are neither ordered nor looked at by identifier. -/
theorem svmByName_conduct {action : Action} {answer : action.Answer} {s s' : Systems}
    (h : conduct T action s answer s') (hpart : action.part? ≠ some .machines) :
    s'.controller.svmByName project = s.controller.svmByName project := by
  obtain ⟨turn, -, hpair⟩ := h
  obtain ⟨-, rfl⟩ := Prod.mk.inj hpair
  have hmachines := (machines_answer (s := s) turn action hpart).1
  exact congrArg (fun machines => (SortedMap.find? machines project).map (·.svm)) hmachines

/-- The identifier of a machine stays while a program runs. -/
theorem ensures_uuidOf {α : Type} {p : Engine α} {guarantee : Program.Conduct actions Systems}
    {post : α → Systems → Prop} {s : Systems} {uuid : String} (h : p.Ensures (conduct T) guarantee post s)
    (huuid : s.controller.uuidOf project = some uuid) :
    p.Ensures (conduct T) guarantee
      (fun value s' => post value s' ∧ s'.controller.uuidOf project = some uuid) s :=
  ensures_keeps (MemoryController.uuidOf project · = some uuid)
    (fun call c => (MemoryController.becomes_perform call c).uuidOf) huuid h

/-- The setup stays while a program runs. -/
theorem ensures_setup {α : Type} {p : Engine α} {guarantee : Program.Conduct actions Systems}
    {post : α → Systems → Prop} {s : Systems} (h : p.Ensures (conduct T) guarantee post s) :
    p.Ensures (conduct T) guarantee
      (fun value s' => post value s' ∧ s.controller.SameSetup s'.controller) s :=
  ensures_keeps s.controller.SameSetup
    (fun call c hsetup => hsetup.trans (MemoryController.becomes_perform call c).sameSetup) (.refl _) h

/-- Identifiers that are distinct after an action were so before. -/
theorem uuidsDistinct_answer (turn : Turn) (action : Action) (s : Systems)
    (h : (s.answer turn action).2.controller.UuidsDistinct) : s.controller.UuidsDistinct :=
  controller_answer_of turn action (p := fun c => c.UuidsDistinct → s.controller.UuidsDistinct) id
    (fun call _ => (MemoryController.becomes_perform call _).uuidsDistinct) h

/-- What actions may come to while machines have different identifiers. -/
def distinct (T : Turn → Prop) : Program.Conduct actions Systems := fun action s answer s' =>
  conduct T action s answer s' ∧ s'.controller.UuidsDistinct

/-- If machines have different identifiers at the end of a run they had different ones all the time: machines
    stay, so once two of them share an identifier they share it to the end. -/
theorem distinct_of_moves {α : Type} {attempt : Attempt α} {course : Course} {s : Systems}
    (hcourse : ∀ n, T (course n)) (hdistinct : (s.run course attempt).2.controller.UuidsDistinct) :
    ∀ move ∈ s.moves course attempt, distinct T move.op move.before move.answer move.after := by
  intro move hmove
  obtain ⟨hanswer, hafter⟩ := Prod.mk.inj (Program.moves_handle (S := actions) attempt.run s move hmove)
  refine ⟨⟨course move.before.turn, hcourse _, Prod.ext hanswer hafter⟩, ?_⟩
  have hshared := (Program.keep_of_moves (S := actions) (p := attempt.run) (s := s)
    (fun action s' (hnot : ¬ s'.controller.UuidsDistinct) h =>
      hnot (uuidsDistinct_answer (course s'.turn) action s' h))).2 move hmove
  exact Classical.byContradiction fun hnot => hshared hnot hdistinct

/-- A machine that was looked up by its name is the one with that name. -/
theorem svmByName_watched {found : Option Svm} {s s' : Systems}
    (h : conduct T (.watch (.controller (.svmByName project))) s (some (.ok found)) s') :
    found = s.controller.svmByName project := by
  rcases watch_cases h with ⟨hnone, -⟩ | ⟨turn, -, hanswer, -⟩
  · cases hnone
  · exact (Except.ok.inj (attend_of_ok (Option.some.inj hanswer).symm).1).symm

/-- A machine that was looked at by identifier has this identifier. -/
theorem svm_watched {svm : Svm} {uuid : String} {s s' : Systems}
    (h : conduct T (.watch (.controller (.svm uuid))) s (some (.ok svm)) s') :
    svm.uuid = some uuid := by
  rcases watch_cases h with ⟨hnone, -⟩ | ⟨turn, -, hanswer, -⟩
  · cases hnone
  · exact MemoryController.uuid_of_svm (attend_of_ok (Option.some.inj hanswer).symm).1

theorem ensures_lookAtSvm (n : Nat) (s : Systems) (log : Log) :
    (lookAtSvm project).Ensures (Program.logged (conduct T)) (machineSteps project)
      (RetryPolicy.Looked (fun _ _ => True) (Ready project) (fun _ => True) n) (s, log) := by
  unfold lookAtSvm
  rw [Program.ensures_bind]
  refine logged_action fun seen s₁ hseen => ⟨.of_reads ⟨rfl, rfl⟩, ?_⟩
  -- only a look that shows the machine by name and by identifier can find it ready
  match seen with
  | none => trivial
  | some (.error _) => trivial
  | some (.ok none) => trivial
  | some (.ok (some found)) =>
    cases huuid : found.uuid with
    | none => simp only [huuid]; trivial
    | some uuid =>
      simp only [huuid, Program.ensures_bind]
      refine logged_action fun shown s₂ hshown => ⟨⟨by rintro _ ⟨⟩; rfl, rfl, by rintro _ ⟨⟩⟩, ?_⟩
      match shown with
      | none => trivial
      | some (.error _) => trivial
      | some (.ok svm) =>
        have hsvm : svm.uuid = some uuid := svm_watched hshown
        have hproject : MemoryController.uuidOf project s.controller = some uuid := by
          rw [MemoryController.uuidOf, ← svmByName_watched hseen]
          exact huuid
        -- the identifier that the first call showed still is the project's
        have hproject' := uuidOf_conduct hshown (uuidOf_conduct hseen hproject)
        cases hready : svm.isReady with
        | false =>
          simp only [probeOf, hready]
          trivial
        | true =>
          simp only [probeOf, hready, if_true]
          exact {
            ready := hready
            reported := by
              intro _ howner
              exact ⟨_, List.mem_append_right _ (List.mem_singleton.2 rfl), svm, rfl, hready, howner⟩
            identified := by
              intro _ howner
              cases hsvm.symm.trans howner
              exact hproject' }

/-- What was ensured of a machine stays so. -/
theorem Ready.step {action : Action} {answer : action.Answer} {svm : Svm} {s s' : Systems}
    {log log' : Log} (h : Ready project svm (s, log)) (hconduct : conduct T action s answer s')
    (hlog : log <+: log') : Ready project svm (s', log') where
  ready := h.ready
  reported uuid huuid := (h.reported uuid huuid).mono hlog
  identified uuid huuid := uuidOf_conduct hconduct (h.identified uuid huuid)

theorem ensures_awaitSvm (policy : RetryPolicy) (s : Systems) (log : Log) :
    Program.Ensures (Program.logged (conduct T)) (machineSteps project)
      (fun result after => ∀ svm, result = .ok svm → Ready project svm after)
      (awaitSvm policy project).run (s, log) := by
  unfold awaitSvm
  rw [ExceptT.run_mk, Program.ensures_bind]
  have hwait : (policy.poll engineTimer (lookAtSvm project)).Ensures (Program.logged (conduct T))
      (machineSteps project)
      (RetryPolicy.Waited (fun _ _ => True) (Ready project) (fun _ => True) (policy.pauses + 1))
      (s, log) := by
    refine RetryPolicy.ensures_poll policy ?_ (fun n after _ => ensures_lookAtSvm n after.1 after.2)
      ?_ trivial
    · rintro ⟨s', log'⟩ -
      refine logged_action fun cancelled s'' _ => ⟨.of_reads ⟨rfl, rfl⟩, ?_⟩
      split <;> trivial
    · rintro n ⟨s', log'⟩ -
      refine logged_action fun going s'' _ => ⟨.of_reads ⟨rfl, rfl⟩, ?_⟩
      split <;> trivial
  refine hwait.imp ?_
  rintro polled ⟨s', log'⟩ hwaited
  -- a wait that ends without a ready machine ends with a failure
  cases polled with
  | ready svm attempts =>
    rw [Program.ensures_bind]
    refine logged_action fun _ s'' hcount => ⟨.of_reads ⟨rfl, rfl⟩, ?_⟩
    intro _ hok
    cases hok
    exact Ready.step hwaited hcount (List.prefix_append _ _)
  | exhausted attempts condition =>
    rw [Program.ensures_bind]
    refine logged_action fun _ s'' _ => ⟨.of_reads ⟨rfl, rfl⟩, ?_⟩
    intro _ hok
    cases hok
  | failed failure => rintro _ ⟨⟩
  | cancelled => rintro _ ⟨⟩

/-- What the order of a machine comes to. -/
structure Ordered (T : Turn → Prop) (project : String) (s : Systems) (result : Except Failure Unit)
    (s' : Systems) : Prop where
  /-- When nothing goes wrong and there was no machine with the name, there is one that was just ordered. -/
  settled : (∀ turn, T turn → turn.Faultless) → s.controller.machines.find? project = none →
    result = .ok () ∧ ∃ order : Svm.Order, order.name = project ∧
      s'.controller.machines = s.controller.machines.insert project
        (MemoryController.orderedMachine order (s.controller.assigned + 1))

theorem ensures_orderSvm (s : Systems) :
    Program.Ensures (conduct T) (machineSteps project) (Ordered T project s)
      (orderSvm project).run s := by
  unfold orderSvm
  refine Program.Ensures.attempt (fun result s' => Alike s s' ∧
    ((∀ turn, T turn → turn.Faultless) → ∃ aggregates, result = .ok aggregates)) ?_ ?_ ?_
  · refine ensures_within ((ensures_read ⟨rfl, rfl⟩ rfl).mono (fun _ _ _ _ h => .of_reads h) ?_)
    intro result s₁ hpost
    obtain ⟨halike, -, hanswered⟩ := hpost
    exact ⟨halike, fun hcalm => ⟨_, congrArg (Except.mapError _) (hanswered hcalm)⟩⟩
  · intro aggregates s₁ hpost
    obtain ⟨halike, -⟩ := hpost
    generalize horder : (⟨project, aggregates.map (·.name), true⟩ : Svm.Order) = order
    have hname : order.name = project := by rw [← horder]
    refine Program.Ensures.attempt (fun result s' => (∀ turn, T turn → turn.Faultless) →
      s.controller.machines.find? project = none → result = .ok () ∧
        s'.controller.machines = s.controller.machines.insert project
          (MemoryController.orderedMachine order (s.controller.assigned + 1))) ?_ ?_ ?_
    · refine ensures_within (ensures_call fun turn hturn => ⟨⟨?_, rfl, ?_⟩, fun hcalm hfree => ?_⟩)
      · intro part hpart
        cases hpart
        rfl
      · intro _ hok
        cases hok
        exact hname
      · rw [attend_of_faultless (hcalm turn hturn)]
        rw [← halike.machines, ← hname] at hfree
        obtain ⟨hok, hmachines⟩ := MemoryController.createSvm_of_none hfree
        rw [halike.machines, halike.assigned, hname] at hmachines
        exact ⟨congrArg (Except.mapError _) hok, hmachines⟩
    · intro value s₂ hordered
      refine Program.Ensures.lift (ensures_count ⟨.of_reads ⟨rfl, rfl⟩, ?_⟩)
      exact ⟨fun hcalm hfree => ⟨rfl, order, hname, (hordered hcalm hfree).2⟩⟩
    · intro failure s₂ hordered
      exact ⟨fun hcalm hfree => by cases (hordered hcalm hfree).1⟩
  · intro failure s₁ hpost
    obtain ⟨-, hanswered⟩ := hpost
    exact ⟨fun hcalm _ => by
      obtain ⟨aggregates, herror⟩ := hanswered hcalm
      cases herror⟩

/-- What is known of the machine that a run goes on with. -/
structure Provided (project : String) (s : Systems) (svm : Svm) (created : Bool)
    (after : Systems × Log) : Prop where
  identified : ∀ uuid, svm.uuid = some uuid →
    MemoryController.uuidOf project after.1.controller = some uuid
  /-- A machine that was found is taken as it is. -/
  found : created = false → s.controller.svmByName project = some svm
  ready : created = true ∨ svm.isReady = true → Ready project svm after

/-- A machine that was asked for by its name is the one with that name. -/
theorem svmByName_called {found : Option Svm} {s s' : Systems}
    (h : conduct T (.call (.controller (.svmByName project))) s (.ok found) s') :
    found = s.controller.svmByName project := by
  obtain ⟨turn, -, hpair⟩ := h
  exact (Except.ok.inj (attend_of_ok (Prod.mk.inj hpair).1.symm).1).symm

/-- Looking for the machine of a project. -/
theorem ensures_lookUp (s : Systems) (log : Log) :
    Program.Ensures (Program.logged (conduct T)) (machineSteps project)
      (fun result after => ∀ found, result = .ok found → found = s.controller.svmByName project ∧
        ∀ svm, found = some svm → Provided project s svm false after)
      (Engine.within project "look up svm" (Engine.controller (.svmByName project))).run (s, log) := by
  refine ensures_within (logged_action fun answer s₁ hcall => ⟨.of_reads ⟨rfl, rfl⟩, ?_⟩)
  match answer with
  | .error _ => rintro _ ⟨⟩
  | .ok found =>
    intro _ hok
    cases hok
    have hfound := svmByName_called hcall
    refine ⟨hfound, ?_⟩
    rintro svm rfl
    have hidentified (uuid : String) (huuid : svm.uuid = some uuid) :
        MemoryController.uuidOf project s₁.controller = some uuid := by
      apply uuidOf_conduct hcall
      rw [MemoryController.uuidOf, ← hfound]
      exact huuid
    exact {
      identified := hidentified
      found := fun _ => hfound.symm
      ready := by
        rintro (⟨⟨⟩⟩ | hready)
        exact {
          ready := hready
          reported := fun uuid huuid =>
            ⟨_, List.mem_append_right _ (List.mem_singleton.2 rfl), svm, rfl, hready, huuid⟩
          identified := hidentified } }

theorem ensures_ensureSvm (engine : Settings.Engine) (s : Systems) (log : Log) :
    Program.Ensures (Program.logged (conduct T)) (machineSteps project)
      (fun result after => ∀ svm created, result = .ok (svm, created) →
        Provided project s svm created after)
      (ensureSvm engine project).run (s, log) := by
  unfold ensureSvm
  refine Program.Ensures.attempt _ (ensures_lookUp s log) ?_ (fun _ _ _ _ _ herror => by cases herror)
  rintro found ⟨s₁, log₁⟩ hfound
  -- a machine that was found is taken as it is, and only a new one is waited for
  match found with
  | some svm =>
    intro _ _ hok
    cases hok
    exact (hfound _ rfl).2 svm rfl
  | none =>
    refine Program.Ensures.attempt (fun _ _ => True) ?_ ?_ (fun _ _ _ _ _ herror => by cases herror)
    · exact ((ensures_orderSvm s₁).logged log₁).mono (fun _ _ _ _ h => h.1) (fun _ _ _ => trivial)
    · rintro _ ⟨s₂, log₂⟩ -
      refine Program.Ensures.attempt (fun result after => ∀ svm, result = .ok svm →
        Ready project svm after) ?_ ?_ (fun _ _ _ _ _ herror => by cases herror)
      · refine ensures_within ((ensures_awaitSvm _ s₂ log₂).imp fun result after hready svm hok => ?_)
        cases result with
        | ok found => exact hready svm hok
        | error failure => cases hok
      · intro svm after hready _ _ hok
        cases hok
        exact {
          identified := (hready svm rfl).identified
          found := by rintro ⟨⟩
          ready := fun _ => hready svm rfl }

/-- The machine that a run goes on with is the project's. -/
theorem ensures_identified (engine : Settings.Engine) (s : Systems) :
    Program.Ensures (conduct T) (machineSteps project)
      (fun result s' => ∀ svm created, result = .ok (svm, created) → ∀ uuid, svm.uuid = some uuid →
        MemoryController.uuidOf project s'.controller = some uuid)
      (ensureSvm engine project).run s :=
  (ensures_ensureSvm engine s []).of_logged (fun _ _ _ _ => id)
    fun _ _ hprovided svm created hok => (hprovided svm created hok).identified

/-! ### The interfaces -/

/-- A step that may be taken for the interfaces of a machine: it reads, or creates one of them. -/
structure InterfaceStep (uuid : String) (action : Action) : Prop where
  part : ∀ part, action.part? = some part → part = .interfaces
  secret : action.secret? = none
  owner : ∀ interface, action.controllerCall? = some (.createInterface interface) →
    interface.svmUuid = uuid

theorem InterfaceStep.of_reads {uuid : String} {action : Action} (h : Reads action) :
    InterfaceStep uuid action where
  part part hpart := by cases h.part.symm.trans hpart
  secret := h.secret
  owner interface hcreate := by
    have hpart := h.part
    rw [Action.part?, hcreate] at hpart
    cases hpart

/-- The promise that every step is an `InterfaceStep`. -/
def interfaceSteps (uuid : String) : Program.Conduct actions Systems :=
  fun action _ _ _ => InterfaceStep uuid action

/-- What the creation of interfaces comes to. -/
structure Connected (T : Turn → Prop) (interfaces : List Interface) (s : Systems)
    (result : Except Failure Unit) (s' : Systems) : Prop where
  kept : s.controller.interfaces <+: s'.controller.interfaces
  setup : s.controller.SameSetup s'.controller
  /-- When nothing goes wrong, and no interface is one that cannot be created, they are all there. -/
  settled : (∀ turn, T turn → turn.Faultless) → s.controller.failingInterfaces = [] →
    result = .ok () ∧ ∀ interface ∈ interfaces, s'.controller.hasInterface interface = true

theorem ensures_createInterface (interface : Interface) (s : Systems) :
    Program.Ensures (conduct T) (interfaceSteps interface.svmUuid) (Connected T [interface] s)
      (createInterface interface).run s := by
  unfold createInterface
  rw [ExceptT.run_mk, Program.ensures_bind]
  refine ensures_call fun turn hturn => ⟨⟨by rintro _ ⟨⟩; rfl, rfl, by rintro _ ⟨⟩; rfl⟩, ?_⟩
  have hkept : s.controller.interfaces <+:
      (attend turn.mishap (.controller (.createInterface interface)) s).2.controller.interfaces :=
    controller_answer_of turn (.call (.controller (.createInterface interface)))
      (p := fun c => s.controller.interfaces <+: c.interfaces) (List.prefix_refl _)
      fun call _ => (MemoryController.becomes_perform call _).interfaces_kept
  have hsetup := sameSetup_answer turn (.call (.controller (.createInterface interface))) s
  -- without a mishap the only failure is that the interface exists.
  have hcases (hnone : s.controller.failingInterfaces = []) :=
    MemoryController.createInterface_cases s.controller interface (by rw [hnone]; rfl)
  have hthere (hcalm : ∀ turn, T turn → turn.Faultless)
      (hnone : s.controller.failingInterfaces = []) : (attend turn.mishap
        (.controller (.createInterface interface)) s).2.controller.hasInterface interface = true := by
    rw [attend_of_faultless (hcalm turn hturn)]
    exact (hcases hnone).2
  cases hanswer : (attend turn.mishap (.controller (.createInterface interface)) s).1 with
  | ok value =>
    rw [Program.ensures_bind]
    refine ensures_count ⟨.of_reads ⟨rfl, rfl⟩, ?_⟩
    exact {
      kept := hkept
      setup := hsetup
      settled := fun hcalm hnone => ⟨rfl, by simpa using hthere hcalm hnone⟩ }
  | error failure =>
    -- an interface that exists counts as created
    by_cases hkind : failure.isAlreadyExists = true
    · simp only [hkind, if_true]
      exact {
        kept := hkept
        setup := hsetup
        settled := fun hcalm hnone => ⟨rfl, by simpa using hthere hcalm hnone⟩ }
    · simp only [hkind]
      exact {
        kept := hkept
        setup := hsetup
        settled := fun hcalm hnone => by
          rw [attend_of_faultless (hcalm turn hturn)] at hanswer
          rcases (hcases hnone).1 with hok | ⟨failure', hfailure, hexists⟩
          · cases hok.symm.trans hanswer
          · obtain rfl : failure' = failure := Except.error.inj (hfailure.symm.trans hanswer)
            exact absurd hexists hkind }

theorem ensures_createInterfaces {uuid : String} {interfaces : List Interface}
    (howner : ∀ interface ∈ interfaces, interface.svmUuid = uuid) (s : Systems) :
    Program.Ensures (conduct T) (interfaceSteps uuid) (Connected T interfaces s)
      (createInterfaces interfaces).run s := by
  -- by induction on the list; interfaces that were created stay while the others follow
  induction interfaces generalizing s with
  | nil =>
    exact {
      kept := List.prefix_refl _
      setup := .refl _
      settled := fun _ _ => ⟨rfl, by simp⟩ }
  | cons interface rest ih =>
    unfold createInterfaces
    obtain rfl : interface.svmUuid = uuid := howner interface (by simp)
    refine Program.Ensures.attempt _ (ensures_createInterface interface s) ?_ ?_
    · intro value s₁ hfirst
      have hensures := ih (fun other hmem => howner other (by simp [hmem])) s₁
      refine hensures.imp fun result s₂ hrest => ?_
      exact {
        kept := hfirst.kept.trans hrest.kept
        setup := hfirst.setup.trans hrest.setup
        settled := fun hcalm hnone => by
          obtain ⟨-, hthere⟩ := hfirst.settled hcalm hnone
          obtain ⟨hok, hothers⟩ := hrest.settled hcalm (hfirst.setup.failingInterfaces.trans hnone)
          refine ⟨hok, fun other hmem => ?_⟩
          rcases List.mem_cons.1 hmem with rfl | hmem
          · exact MemoryController.hasInterface_mono (hthere other (by simp)) hrest.kept
          · exact hothers other hmem }
    · intro failure s₁ hfirst
      exact {
        kept := hfirst.kept
        setup := hfirst.setup
        settled := fun hcalm hnone => by cases (hfirst.settled hcalm hnone).1 }

/-- The names of all interfaces of a machine with so many data addresses. -/
def plannedNames (engine : Settings.Engine) (addresses : Nat) : List String :=
  (List.range addresses).map engine.dataInterfaceName ++ [engine.managementInterfaceTag]

/-- The interfaces for the addresses from an index on have the names from this index on. -/
theorem names_dataEndpoints (engine : Settings.Engine) (uuid : String) (nodes : List Node)
    (mode : Addressing) (ips : List Address) (index : Nat) :
    (dataEndpoints engine uuid nodes mode index ips).map (·.name) =
        (List.range' index ips.length).map engine.dataInterfaceName ∧
      ∀ interface ∈ dataEndpoints engine uuid nodes mode index ips, interface.svmUuid = uuid := by
  induction ips generalizing index with
  | nil => simp [dataEndpoints]
  | cons ip rest ih =>
    obtain ⟨hnames, howner⟩ := ih (index + 1)
    unfold dataEndpoints
    constructor
    · simp only [List.map_cons, hnames, List.length_cons, List.range'_succ]
      rfl
    · intro interface hmem
      rcases List.mem_cons.1 hmem with rfl | hmem
      · rfl
      · exact howner interface hmem

/-- A plan has the planned names, on one machine. -/
theorem names_plan {request : EndpointRequest} {nodes : List Node} {mode : Addressing}
    {interfaces : List Interface} (h : request.plan engine nodes mode = .ok interfaces) :
    interfaces.map (·.name) = plannedNames engine request.dataIps.length ∧
      ∀ interface ∈ interfaces, interface.svmUuid = request.svmUuid := by
  cases nodes with
  | nil => cases h
  | cons first rest =>
    obtain ⟨hnames, howner⟩ :=
      names_dataEndpoints engine request.svmUuid (first :: rest) mode request.dataIps 0
    cases h
    constructor
    · rw [List.map_append, hnames, plannedNames, List.range_eq_range']
      rfl
    · intro interface hmem
      rcases List.mem_append.1 hmem with hmem | hmem
      · exact howner interface hmem
      · obtain rfl := List.mem_singleton.1 hmem
        rfl

theorem ensures_probeAddressing {uuid : String} (s : Systems) :
    Program.Ensures (conduct T) (interfaceSteps uuid)
      (fun result s' => Alike s s' ∧
        ((∀ turn, T turn → turn.Faultless) → ∃ mode, result = .ok mode))
      probeAddressing.run s := by
  unfold probeAddressing
  refine Program.Ensures.attempt _ ((ensures_read ⟨rfl, rfl⟩ rfl).mono
    (fun _ _ _ _ h => .of_reads h) fun _ _ => id) ?_ ?_
  · intro count s₁ hpost
    obtain ⟨halike, -⟩ := hpost
    exact ⟨halike, fun _ => ⟨_, rfl⟩⟩
  · intro failure s₁ hpost
    obtain ⟨halike, -, hanswered⟩ := hpost
    exact ⟨halike, fun hcalm => by cases hanswered hcalm⟩

/-- What the allocation of interfaces comes to. -/
structure Allocated (T : Turn → Prop) (engine : Settings.Engine) (request : EndpointRequest)
    (nodes : List Node) (s : Systems) (result : Except Failure (List Interface)) (s' : Systems) :
    Prop where
  /-- When nothing goes wrong, and all interfaces can be created, the machine has the planned ones. -/
  settled : (∀ turn, T turn → turn.Faultless) → s.controller.failingInterfaces = [] → nodes ≠ [] →
    (∃ interfaces, result = .ok interfaces) ∧
      ∀ name ∈ plannedNames engine request.dataIps.length, ∃ interface ∈ s'.controller.interfaces,
        interface.name = name ∧ interface.svmUuid = request.svmUuid

theorem ensures_allocate (engine : Settings.Engine) (request : EndpointRequest) (nodes : List Node)
    (s : Systems) :
    Program.Ensures (conduct T) (interfaceSteps request.svmUuid) (Allocated T engine request nodes s)
      (allocate engine request nodes).run s := by
  unfold allocate
  refine Program.Ensures.attempt _ (ensures_probeAddressing s) ?_ ?_
  · intro mode s₁ hpost
    obtain ⟨halike, -⟩ := hpost
    refine Program.Ensures.check ?_ ?_
    · intro interfaces hplan
      obtain ⟨hnames, howner⟩ := names_plan hplan
      refine Program.Ensures.attempt _ (ensures_createInterfaces howner s₁) ?_ ?_
      · intro value s₂ hconnected
        refine ⟨fun hcalm hnone _ => ⟨⟨_, rfl⟩, ?_⟩⟩
        obtain ⟨-, hthere⟩ := hconnected.settled hcalm (halike.setup.failingInterfaces.trans hnone)
        intro name hname
        rw [← hnames] at hname
        obtain ⟨planned, hmem, rfl⟩ := List.mem_map.1 hname
        -- the interface that is there may be an older one with the same name on the same machine
        obtain ⟨interface, hinterface, hsame⟩ := List.any_eq_true.1 (hthere planned hmem)
        rw [Bool.and_eq_true, beq_iff_eq, beq_iff_eq, howner planned hmem] at hsame
        exact ⟨interface, hinterface, hsame⟩
      · intro failure s₂ hconnected
        refine ⟨fun hcalm hnone _ => ?_⟩
        cases (hconnected.settled hcalm (halike.setup.failingInterfaces.trans hnone)).1
    · intro failure hplan
      refine ⟨fun _ _ hnodes => ?_⟩
      cases nodes with
      | nil => exact absurd rfl hnodes
      | cons first rest => cases hplan
  · intro failure s₁ hpost
    obtain ⟨-, hanswered⟩ := hpost
    refine ⟨fun hcalm _ _ => ?_⟩
    obtain ⟨mode, herror⟩ := hanswered hcalm
    cases herror

/-! ### The parts of a run in their order -/

/-- What a part of a run leads to: the next part can go on where it succeeds, and the run may end where it
    fails, however the failure is told. -/
structure Leads {σ α β : Type} (next : α → σ → Prop) (post : Except Failure β → σ → Prop)
    (result : Except Failure α) (s : σ) : Prop where
  ok : ∀ value, result = .ok value → next value s
  failed : ∀ failure, result = .error failure → ∀ told, post (.error told) s

theorem Leads.of_ok {σ α β : Type} {next : α → σ → Prop} {post : Except Failure β → σ → Prop}
    {value : α} {s : σ} (h : next value s) : Leads next post (.ok value) s where
  ok := by
    intro _ hok
    cases hok
    exact h
  failed := by
    intro _ herror
    cases herror

theorem Leads.mapError {σ α β : Type} {next : α → σ → Prop} {post : Except Failure β → σ → Prop}
    {result : Except Failure α} {s : σ} (h : Leads next post result s) (tell : Failure → Failure) :
    Leads next post (result.mapError tell) s where
  ok := by
    intro value hok
    cases result with
    | ok _ => exact h.ok value hok
    | error _ => cases hok
  failed := by
    intro _ _ told
    cases result with
    | ok _ => contradiction
    | error failure => exact h.failed failure rfl told

section Parts

variable {σ : Type} {conduct guarantee : Program.Conduct actions σ} {s : σ} {request : Request}

/-- The rule for a run.  Each part starts from what the part before it has led to. -/
theorem ensures_steps {post : Except Failure Outcome → σ → Prop} (selected : List Node → σ → Prop)
    (provided : List Node → Svm → Bool → σ → Prop) (allocated : Svm → Bool → List Interface → σ → Prop)
    (hinvalid : ∀ failure, request.validate = .error failure → post (.error failure) s)
    (hselect : request.validate = .ok () →
      Program.Ensures conduct guarantee (Leads selected post) selectNodes.run s)
    (hprovide : ∀ nodes s, selected nodes s → Program.Ensures conduct guarantee
      (Leads (fun (svm, created) => provided nodes svm created) post)
      (ensureSvm engine request.projectId).run s)
    (hnameless : ∀ nodes svm created s, provided nodes svm created s → svm.uuid = none →
      ∀ told, post (.error told) s)
    (hallocate : ∀ nodes svm created s, provided nodes svm created s → ∀ uuid, svm.uuid = some uuid →
      Program.Ensures conduct guarantee (Leads (allocated svm created) post)
        (allocate engine ⟨uuid, request.dataIps, request.managementIp⟩ nodes).run s)
    (hreconcile : ∀ svm created interfaces s, allocated svm created interfaces s →
      Program.Ensures conduct guarantee
        (Leads (fun credentials => post (.ok ⟨svm, created, interfaces, credentials⟩)) post)
        (reconcile engine request.projectId svm).run s) :
    Program.Ensures conduct guarantee post (request.steps engine).run s := by
  unfold Request.steps
  refine Program.Ensures.check ?_ hinvalid
  intro _ hvalid
  refine Program.Ensures.attempt (Leads selected post)
    (ensures_within ((hselect hvalid).imp fun _ _ h => h.mapError _)) ?_
    (fun failure _ h => h.failed failure rfl failure)
  intro nodes s₁ hselected
  refine Program.Ensures.attempt _ (hprovide nodes s₁ (hselected.ok nodes rfl)) ?_
    (fun failure _ h => h.failed failure rfl failure)
  rintro ⟨svm, created⟩ s₂ hprovided
  have hprovided : provided nodes svm created s₂ := hprovided.ok _ rfl
  refine Program.Ensures.attempt _ (ensures_requireUuid svm s₂) ?_ ?_
  · rintro uuid _ ⟨rfl, hresolved⟩
    have huuid : svm.uuid = some uuid := (hresolved uuid).1 rfl
    refine Program.Ensures.attempt (Leads (allocated svm created) post)
      (ensures_within ((hallocate nodes svm created s₂ hprovided uuid huuid).imp
        fun _ _ h => h.mapError _)) ?_ (fun failure _ h => h.failed failure rfl failure)
    intro interfaces s₃ hallocated
    have hreconciled := hreconcile svm created interfaces s₃ (hallocated.ok interfaces rfl)
    refine Program.Ensures.attempt _
      (ensures_within (hreconciled.imp fun _ _ h => h.mapError _)) ?_
      (fun failure _ h => h.failed failure rfl failure)
    exact fun credentials _ h => h.ok credentials rfl
  · rintro failure _ ⟨rfl, hresolved⟩
    cases huuid : svm.uuid with
    | none => exact hnameless nodes svm created s₂ hprovided huuid failure
    | some uuid => cases (hresolved uuid).2 huuid

end Parts

/-! ### A run for a machine that is there -/

/-- A machine that is there is taken as it is. -/
theorem ensures_ensureSvm_found (engine : Settings.Engine) {svm : Svm} {s : Systems}
    (hfound : s.controller.svmByName project = some svm) :
    Program.Ensures (conduct T) readings
      (fun result s' => Alike s s' ∧ (∀ value, result = .ok value → value = (svm, false)) ∧
        ((∀ turn, T turn → turn.Faultless) → result = .ok (svm, false)))
      (ensureSvm engine project).run s := by
  have hlook : (s.controller.perform (.svmByName project)).1 = .ok (some svm) :=
    congrArg Except.ok hfound
  unfold ensureSvm
  refine Program.Ensures.attempt (fun result s' => Alike s s' ∧
    (∀ found, result = .ok found → found = some svm) ∧
      ((∀ turn, T turn → turn.Faultless) → result = .ok (some svm))) ?_ ?_ ?_
  · refine ensures_within ((ensures_read ⟨rfl, rfl⟩ hlook).imp fun result s₁ h => ?_)
    obtain ⟨halike, hvalue, hanswered⟩ := h
    refine ⟨halike, fun found hok => ?_, fun hcalm => congrArg (Except.mapError _) (hanswered hcalm)⟩
    cases result with
    | ok value =>
      cases hok
      exact hvalue _ rfl
    | error failure => cases hok
  · intro found s₁ h
    obtain ⟨halike, hvalue, -⟩ := h
    rw [hvalue found rfl]
    exact ⟨halike, fun value hok => (Except.ok.inj hok).symm, fun _ => rfl⟩
  · intro failure s₁ h
    obtain ⟨halike, -, hanswered⟩ := h
    exact ⟨halike, by rintro value ⟨⟩, fun hcalm => by cases hanswered hcalm⟩

/-- A run for a machine that is there neither orders a machine nor looks at one by identifier. -/
theorem ensures_provision_found (engine : Settings.Engine) {request : Request} {svm : Svm} {s : Systems}
    (hfound : s.controller.svmByName request.projectId = some svm) :
    Program.Ensures (conduct T) (fun action _ _ _ => action.part? ≠ some .machines) (fun _ _ => True)
      (request.provision engine).run s := by
  have hreads (action : Action) (h : Reads action) : action.part? ≠ some .machines := by
    rw [h.part]
    rintro ⟨⟩
  have hsteps : Program.Ensures (conduct T) (fun action _ _ _ => action.part? ≠ some .machines)
      (fun _ _ => True) (request.steps engine).run s := by
    refine ensures_steps (fun _ s => s.controller.svmByName request.projectId = some svm)
      (fun _ _ _ _ => True) (fun _ _ _ _ => True) (fun _ _ => trivial) ?_ ?_
      (fun _ _ _ _ _ _ _ => trivial) ?_ ?_
    · intro _
      refine (ensures_selectNodes s).mono (fun action _ _ _ h => hreads action h) fun _ s₁ h => ?_
      refine ⟨fun _ _ => ?_, fun _ _ _ => trivial⟩
      rw [MemoryController.svmByName, h.alike.machines]
      exact hfound
    · intro nodes s₁ hfound₁
      exact (ensures_ensureSvm_found engine hfound₁).mono (fun action _ _ _ h => hreads action h)
        fun _ _ _ => ⟨fun _ _ => trivial, fun _ _ _ => trivial⟩
    · intro nodes svm created s₂ _ uuid _
      refine (ensures_allocate engine _ nodes s₂).mono (fun action _ _ _ h hpart => ?_)
        fun _ _ _ => ⟨fun _ _ => trivial, fun _ _ _ => trivial⟩
      cases h.part _ hpart
    · intro svm created interfaces s₃ _
      refine (ensures_reconcile engine request.projectId svm s₃).mono (fun action _ _ _ h hpart => ?_)
        fun _ _ _ => ⟨fun _ _ => trivial, fun _ _ _ => trivial⟩
      cases h.part _ hpart
  unfold Request.provision
  rw [ExceptT.run_mk, Program.ensures_bind]
  refine hsteps.imp fun result s' _ => ?_
  rw [Program.ensures_bind]
  exact ensures_count ⟨hreads _ ⟨rfl, rfl⟩, trivial⟩

/-! ### Runs one after another -/

/-- One run for a request, under a course of its own. -/
structure Attempted where
  request : Request
  course : Course

namespace Attempted

/-- What a run returns. -/
def result (engine : Settings.Engine) (run : Attempted) (s : Systems) : Except Failure Outcome :=
  (s.run run.course (run.request.provision engine)).1

/-- The steps of a run. -/
def moves (engine : Settings.Engine) (run : Attempted) (s : Systems) : Log :=
  s.moves run.course (run.request.provision engine)

/-- The systems when a run is over. -/
def final (engine : Settings.Engine) (run : Attempted) (s : Systems) : Systems :=
  (s.run run.course (run.request.provision engine)).2

/-- The systems after runs one after another. -/
def after (engine : Settings.Engine) (runs : List Attempted) (s : Systems) : Systems :=
  runs.foldl (fun s run => (s.run run.course (run.request.provision engine)).2) s

theorem after_snoc (engine : Settings.Engine) (runs : List Attempted) (last : Attempted) (s : Systems) :
    after engine (runs ++ [last]) s =
      ((after engine runs s).run last.course (last.request.provision engine)).2 := by
  rw [after, List.foldl_append]
  rfl

/-- What every run for a request keeps is kept by runs for it, one after another. -/
theorem after_of_keeps {engine : Settings.Engine} {request : Request} {p : Systems → Prop}
    (hkeeps : ∀ s course, p s → p (s.run course (request.provision engine)).2) {runs : List Attempted}
    (hruns : ∀ run ∈ runs, run.request = request) {s : Systems} (h : p s) : p (after engine runs s) := by
  induction runs generalizing s with
  | nil => exact h
  | cons run rest ih =>
    obtain rfl : run.request = request := hruns run (by simp)
    exact ih (fun other hmem => hruns other (by simp [hmem])) (hkeeps s run.course h)

end Attempted

end Provision

end TenantStorage
