import TenantStorage.Proofs.Memory.Histories
import TenantStorage.Proofs.Provision.Asks
import TenantStorage.Proofs.Provision.Discipline

namespace TenantStorage

open Systems

/-!
# When a new machine is ready

A new machine runs and serves NVMe from certain looks on.  While nothing goes wrong and nothing is cancelled,
these two numbers and the settings fix how often the machine is looked at, how long is paused between the looks,
and what is said of a machine that is not ready in time.

* `MemoryController.comesUpAfter?` — the look at which a new machine is ready; `due_iff` says so.
* `MemoryController.grown` — a new machine after so many looks.
* `Turn.Undisturbed`, `At` — the state after undisturbed actions, with the time that was paused.
* `Growing` — the new machine after so many looks; `ensures_lookAtSvm_undisturbed` — another look;
  `ensures_awaitSvm_undisturbed` — the wait.
* `provision_when_ready` — the whole run.
-/

/-! ### How a machine comes up -/

namespace MemoryController

variable {c c' : MemoryController} {order : Svm.Order}

/-- The look at which a new machine is ready, unless it never is. -/
def comesUpAfter? (c : MemoryController) : Option Nat :=
  c.runningAfter.map fun running => max 1 (max running (c.nvmeAfter.getD running))

theorem due_iff {n : Nat} (h : 0 < n) : Due c n ↔ ∃ t, c.comesUpAfter? = some t ∧ t ≤ n := by
  unfold Due comesUpAfter? reached
  cases c.runningAfter with
  | none => simp
  | some running =>
    cases c.nvmeAfter with
    | none =>
      simp
      omega
    | some nvme =>
      simp
      omega

/-- A machine that is ready now and was not before comes up now. -/
theorem comesUpAfter?_eq {n : Nat} (hdue : Due c (n + 1)) (hlate : n = 0 ∨ ¬Due c n) :
    c.comesUpAfter? = some (n + 1) := by
  obtain ⟨t, ht, hle⟩ := (due_iff (Nat.succ_pos n)).1 hdue
  have hpositive : 1 ≤ t := by
    obtain ⟨running, -, rfl⟩ := Option.map_eq_some_iff.1 ht
    exact Nat.le_max_left ..
  have hlt : n < t := by
    rcases hlate with rfl | hlate
    · exact hpositive
    · by_contra hnot
      exact hlate ((due_iff (by omega)).2 ⟨t, ht, by omega⟩)
  rw [ht, show t = n + 1 by omega]

theorem reached_mono {m n : Nat} {threshold : Option Nat} (h : m ≤ n) (hm : reached m threshold = true) :
    reached n threshold = true := by
  unfold reached at *
  cases threshold with
  | none => cases hm
  | some threshold =>
    simp only [Option.any_some, decide_eq_true_eq] at *
    omega

/-- How a new machine stands after so many looks. -/
def grown (c : MemoryController) (order : Svm.Order) (number : Nat) : (looks : Nat) → Machine
  | 0 => orderedMachine order number
  | looks + 1 => c.advance (grown c order number looks)

theorem grown_eq (c : MemoryController) (order : Svm.Order) (number looks : Nat) :
    c.grown order number (looks + 1) =
      { lookups := looks + 1
        svm := { (orderedMachine order number).svm with
          state := if reached (looks + 1) c.runningAfter then .running else .creating
          nvmeEnabled := reached (looks + 1) (c.nvmeAfter.or c.runningAfter) } } := by
  -- by induction on the looks; what was reached stays reached
  induction looks with
  | zero => simp [grown, advance, orderedMachine]
  | succ looks ih =>
    have hmono (threshold : Option Nat) : reached (looks + 1) threshold = true →
        reached (looks + 2) threshold = true := reached_mono (by omega)
    rw [grown, ih]
    simp only [advance, Machine.mk.injEq, Svm.mk.injEq, and_true, true_and]
    constructor
    · by_cases hnow : reached (looks + 1 + 1) c.runningAfter = true
      · rw [if_pos hnow, if_pos hnow]
      · rw [if_neg hnow, if_neg hnow, if_neg fun hbefore => hnow (hmono _ hbefore)]
    · cases hbefore : reached (looks + 1) (c.nvmeAfter.or c.runningAfter) with
      | false => rfl
      | true => rw [hmono _ hbefore, Bool.or_self]

theorem isReady_grown (c : MemoryController) (order : Svm.Order) (number looks : Nat) :
    (c.grown order number (looks + 1)).svm.isReady = true ↔ Due c (looks + 1) := by
  simp [grown_eq, Svm.isReady, orderedMachine, Due]

/-- What is said of a new machine that is not ready after so many looks. -/
def lateCondition (c : MemoryController) (name : String) (looks : Nat) : String :=
  if reached looks c.runningAfter then "svm " ++ name ++ " is running but nvme is not enabled"
  else "svm " ++ name ++ " is in state creating"

theorem condition_grown {looks : Nat} (number : Nat) (h : ¬Due c (looks + 1)) :
    (c.grown order number (looks + 1)).svm.condition = c.lateCondition order.name (looks + 1) := by
  rw [grown_eq, Svm.condition, lateCondition]
  by_cases hrunning : reached (looks + 1) c.runningAfter = true
  · have hnvme : reached (looks + 1) (c.nvmeAfter.or c.runningAfter) = false := by
      simpa [Due, hrunning] using h
    simp [orderedMachine, hrunning, hnvme]
  · simp only [orderedMachine, hrunning, if_false, Bool.false_eq_true, Svm.State.text]
    rw [String.append_assoc]
    rfl

/-- A setup makes machines come up in one way. -/
theorem SameSetup.advance (h : c.SameSetup c') : c'.advance = c.advance := by
  funext machine
  rw [MemoryController.advance, MemoryController.advance, h.runningAfter, h.nvmeAfter]

end MemoryController

/-! ### Undisturbed actions -/

/-- Nothing goes wrong, and the cancellation stays away. -/
structure Turn.Undisturbed (turn : Turn) : Prop where
  faultless : turn.Faultless
  cancelled : turn.cancelled = false

/-- How long an action lasts.  Only a pause that is not cut short takes time. -/
def Action.lasts : (action : Action) → action.Answer → Nat
  | .pause duration, true => duration.nanoseconds
  | _, _ => 0

/-- A call that asks for nodes, aggregates or machines, or orders a machine. -/
def Call.isForMachine : Call → Bool
  | .controller (.nodes) | .controller .aggregates | .controller (.svmByName _) | .controller (.svm _)
  | .controller (.createSvm _) => true
  | _ => false

/-- An action that is no pause, looks up no machine and orders none. -/
def Action.isAside : Action → Bool
  | .pause _ => false
  | .call (.controller (.svmByName _)) | .watch (.controller (.svmByName _)) => false
  | .call (.controller (.svm _)) | .watch (.controller (.svm _)) => false
  | .call (.controller (.createSvm _)) | .watch (.controller (.createSvm _)) => false
  | _ => true

theorem lasts_of_isAside {action : Action} {answer : action.Answer} (h : action.isAside = true) :
    action.lasts answer = 0 := by
  cases action with
  | pause _ => cases h
  | call _ | watch _ | cancelled | password | count _ => rfl

theorem looksUpNone_of_isAside {action : Action} {call : ControllerCall} (h : action.isAside = true)
    (hcall : action.controllerCall? = some call) (c : MemoryController) :
    (c.perform call).2.tally.svmNameLookups = c.tally.svmNameLookups ∧
      (c.perform call).2.tally.svmUuidLookups = c.tally.svmUuidLookups ∧
        (c.perform call).2.machines = c.machines := by
  have hbecomes := MemoryController.becomes_perform call c
  rw [hbecomes.tally]
  have haction := Action.call?_of_controllerCall? hcall
  cases call with
  | svmByName _ | svm _ | createSvm _ =>
    -- neither a call nor a watched call of these is aside
    cases action <;> cases haction <;> cases h
  | nodes | aggregates | createInterface _ | peerGroups | createAccount _ | account _ _
  | setPassword _ _ _ =>
    exact ⟨rfl, rfl, (hbecomes.machines (by rintro ⟨⟩)).1⟩

namespace Provision

/-- How long was paused. -/
def timePaused : Log → Nat
  | [] => 0
  | move :: rest => Action.lasts move.op move.answer + timePaused rest

theorem timePaused_append (log log' : Log) : timePaused (log ++ log') = timePaused log + timePaused log' := by
  induction log with
  | nil => simp [timePaused]
  | cons move rest ih =>
    rw [List.cons_append, timePaused, timePaused, ih]
    omega

variable {project uuid : String} {engine : Settings.Engine} {c c' : MemoryController} {time : Nat}
  {after : Systems × Log}

/-- The controller, and how long was paused, while all calls were for the machine. -/
structure At (c : MemoryController) (time : Nat) (after : Systems × Log) : Prop where
  controller : after.1.controller = c
  paused : timePaused after.2 = time
  calls : ∀ move ∈ after.2, ∀ call, Action.call? move.op = some call → call.isForMachine = true

/-- Surroundings in which nothing goes wrong and nothing is cancelled, with a log. -/
def undisturbed : Program.Conduct actions (Systems × Log) := Program.logged (conduct Turn.Undisturbed)

/-- The rule for an action. -/
theorem ensures_action_at {action : Action} {post : action.Answer → Systems × Log → Prop}
    (h : At c time after) (hcall : ∀ call, action.call? = some call → call.isForMachine = true)
    (hpost : ∀ turn : Turn, turn.Undisturbed → ∀ after',
      At (after.1.answer turn action).2.controller (time + action.lasts (after.1.answer turn action).1) after' →
        post (after.1.answer turn action).1 after') :
    Program.Ensures undisturbed Program.anyStep post (Program.perform (S := actions) action) after := by
  obtain ⟨s, log⟩ := after
  refine logged_action fun answer s' hstep => ⟨trivial, ?_⟩
  obtain ⟨turn, hturn, hpair⟩ := hstep
  obtain ⟨rfl, rfl⟩ := Prod.mk.inj hpair
  refine hpost turn hturn _ { controller := rfl, paused := ?_, calls := fun move hmove => ?_ }
  · rw [timePaused_append, h.paused]
    rfl
  · rcases List.mem_append.1 hmove with hmove | hmove
    · exact h.calls move hmove
    · obtain rfl := List.mem_singleton.1 hmove
      exact hcall

theorem ensures_call_at {call : ControllerCall}
    {post : Except Failure call.Answer → Systems × Log → Prop} (h : At c time after)
    (hcall : (Call.controller call).isForMachine = true)
    (hpost : ∀ after', At (c.perform call).2 time after' → post (c.perform call).1 after') :
    Program.Ensures undisturbed Program.anyStep post (Engine.controller call).run after := by
  refine ensures_action_at h (by rintro _ ⟨⟩; exact hcall) fun turn hturn after' hat => ?_
  simp only [Systems.answer, attend_of_faultless hturn.faultless] at hat ⊢
  obtain rfl : after.1.controller = c := h.controller
  exact hpost after' hat

theorem ensures_watch_at {call : ControllerCall}
    {post : Option (Except Failure call.Answer) → Systems × Log → Prop} (h : At c time after)
    (hcall : (Call.controller call).isForMachine = true)
    (hpost : ∀ after', At (c.perform call).2 time after' → post (some (c.perform call).1) after') :
    Program.Ensures undisturbed Program.anyStep post (Engine.watch (.controller call)) after := by
  refine ensures_action_at h (by rintro _ ⟨⟩; exact hcall) fun turn hturn after' hat => ?_
  simp only [Systems.answer, hturn.cancelled, attend_of_faultless hturn.faultless] at hat ⊢
  obtain rfl : after.1.controller = c := h.controller
  exact hpost after' hat

theorem ensures_count_at {event : Event} {post : Unit → Systems × Log → Prop} (h : At c time after)
    (hpost : ∀ after', At c time after' → post () after') :
    Program.Ensures undisturbed Program.anyStep post (Engine.count event) after := by
  refine ensures_action_at h (by rintro _ ⟨⟩) fun turn _ after' hat => ?_
  obtain rfl : after.1.controller = c := h.controller
  exact hpost after' hat

theorem ensures_cancelled_at {post : Bool → Systems × Log → Prop} (h : At c time after)
    (hpost : ∀ after', At c time after' → post false after') :
    Program.Ensures undisturbed Program.anyStep post engineTimer.cancelled after := by
  refine ensures_action_at h (by rintro _ ⟨⟩) fun turn hturn after' hat => ?_
  obtain rfl : after.1.controller = c := h.controller
  simp only [Systems.answer, hturn.cancelled] at hat ⊢
  exact hpost after' hat

theorem ensures_pause_at {duration : Duration} {post : Bool → Systems × Log → Prop} (h : At c time after)
    (hpost : ∀ after', At c (time + duration.nanoseconds) after' → post true after') :
    Program.Ensures undisturbed Program.anyStep post (engineTimer.pause duration) after := by
  refine ensures_action_at h (by rintro _ ⟨⟩) fun turn hturn after' hat => ?_
  obtain rfl : after.1.controller = c := h.controller
  simp only [Systems.answer, hturn.cancelled, Bool.not_false] at hat ⊢
  exact hpost after' hat

/-! ### The wait -/

/-- Of the machines that `c` has just the one that was ordered, after so many looks by name and by identifier. -/
structure Growing (c : MemoryController) (order : Svm.Order) (number looks : Nat) (c' : MemoryController) :
    Prop where
  setup : c.SameSetup c'
  machine : c'.machines.find? order.name = some (c.grown order number looks)
  others : ∀ name, name ≠ order.name → c'.machines.find? name = none
  tally : c'.tally = { c.tally with
    svmNameLookups := c.tally.svmNameLookups + looks
    svmUuidLookups := c.tally.svmUuidLookups + looks }

variable {order : Svm.Order} {number n : Nat}

theorem uuid_grown (c : MemoryController) (order : Svm.Order) (number looks : Nat) :
    (c.grown order number looks).svm.uuid = some ("svm-uuid-" ++ number.repr) := by
  induction looks with
  | zero => rfl
  | succ looks ih => exact ih

/-- Another look. -/
theorem Growing.look (h : Growing c order number n c')
    (huuid : (c.grown order number n).svm.uuid = some uuid) :
    ((c'.perform (.svmByName order.name)).2.perform (.svm uuid)).1 =
        .ok (c.grown order number (n + 1)).svm ∧
      Growing c order number (n + 1) ((c'.perform (.svmByName order.name)).2.perform (.svm uuid)).2 := by
  have hname := MemoryController.becomes_perform (.svmByName order.name) c'
  obtain ⟨hmachines, -⟩ := hname.machines (by rintro ⟨⟩)
  generalize (c'.perform (.svmByName order.name)).2 = named at hname hmachines ⊢
  have hlook := MemoryController.becomes_perform (.svm uuid) named
  have hsetup : c.SameSetup named := h.setup.trans hname.sameSetup
  have hmachine : named.machines.find? order.name = some (c.grown order number n) :=
    hmachines ▸ h.machine
  have hothers (name : String) (hne : name ≠ order.name) : named.machines.find? name = none :=
    hmachines ▸ h.others name hne
  -- no other machine can have the identifier, for there is none
  have hunshared : MemoryController.Unshared order.name uuid named := by
    intro name howner
    by_contra hne
    obtain ⟨machine, hfound, -⟩ := MemoryController.find?_of_uuidOf howner
    cases (hothers name hne).symm.trans hfound
  obtain ⟨hanswer, hafter⟩ := MemoryController.svm_of_find? hmachine huuid hunshared
  rw [hsetup.advance] at hanswer hafter
  refine ⟨hanswer, ?_⟩
  exact {
    setup := hsetup.trans hlook.sameSetup
    machine := hafter
    others := by
      intro name hne
      rw [hlook.machine (by rintro _ ⟨⟩) ?_]
      · exact hothers name hne
      · rintro _ ⟨⟩ howner
        exact hne (hunshared name howner)
    tally := by
      rw [hlook.tally, hname.tally, h.tally]
      rfl }

theorem ensures_lookAtSvm_undisturbed (hat : At c' time after) (hgrowing : Growing c order number n c') :
    (lookAtSvm order.name).Ensures undisturbed Program.anyStep
      (fun finding after' => finding = some (.ok (probeOf (c.grown order number (n + 1)).svm)) ∧
        ∃ c'', At c'' time after' ∧ Growing c order number (n + 1) c'') after := by
  unfold lookAtSvm
  rw [Program.ensures_bind]
  refine ensures_watch_at hat rfl fun after₁ hat₁ => ?_
  have hfound : (c'.perform (.svmByName order.name)).1 =
      .ok (some (c.grown order number n).svm) :=
    congrArg Except.ok (congrArg (Option.map MemoryController.Machine.svm) hgrowing.machine)
  have huuid := uuid_grown c order number n
  obtain ⟨hanswer, hlooked⟩ := hgrowing.look huuid
  simp only [hfound, huuid, Program.ensures_bind]
  refine ensures_watch_at hat₁ rfl fun after₂ hat₂ => ?_
  rw [hanswer]
  exact ⟨rfl, _, hat₂, hlooked⟩

/-- What the wait for a new machine comes to, when so many looks are allowed. -/
def Arrived (c : MemoryController) (order : Svm.Order) (number allowed delay time : Nat)
    (result : Except Failure Svm) (after : Systems × Log) : Prop :=
  match c.comesUpAfter?.filter (· ≤ allowed) with
  | some t => result = .ok (c.grown order number t).svm ∧ (c.grown order number t).svm.isReady = true ∧
      ∃ c', At c' (time + (t - 1) * delay) after ∧ Growing c order number t c'
  | none => result =
        .error (.readinessTimeout order.name allowed (c.lateCondition order.name allowed)) ∧
      ∃ c', At c' (time + (allowed - 1) * delay) after ∧ Growing c order number allowed c'

theorem Arrived.of_due {allowed delay : Nat} {result : Except Failure Svm} (hle : n + 1 ≤ allowed)
    (hdue : c.Due (n + 1)) (hlate : n = 0 ∨ ¬c.Due n)
    (hresult : result = .ok (c.grown order number (n + 1)).svm)
    (hafter : ∃ c', At c' (time + n * delay) after ∧ Growing c order number (n + 1) c') :
    Arrived c order number allowed delay time result after := by
  have hfilter : c.comesUpAfter?.filter (· ≤ allowed) = some (n + 1) := by
    simp [MemoryController.comesUpAfter?_eq hdue hlate, hle]
  rw [Arrived, hfilter]
  exact ⟨hresult, (MemoryController.isReady_grown ..).2 hdue, hafter⟩

theorem Arrived.of_late {delay : Nat} {result : Except Failure Svm} (hlate : ¬c.Due (n + 1))
    (hresult : result = .error
      (.readinessTimeout order.name (n + 1) (c.lateCondition order.name (n + 1))))
    (hafter : ∃ c', At c' (time + n * delay) after ∧ Growing c order number (n + 1) c') :
    Arrived c order number (n + 1) delay time result after := by
  have hfilter : c.comesUpAfter?.filter (· ≤ n + 1) = none := by
    rw [Option.filter_eq_none_iff]
    intro t ht hle
    exact hlate ((MemoryController.due_iff (Nat.succ_pos n)).2 ⟨t, ht, of_decide_eq_true hle⟩)
  rw [Arrived, hfilter]
  exact ⟨hresult, hafter⟩

/-- So many looks, with a pause after each, have found the machine not ready. -/
def Late (c : MemoryController) (order : Svm.Order) (number delay time looks : Nat) (after : Systems × Log) :
    Prop :=
  (looks = 0 ∨ ¬c.Due looks) ∧ ∃ c', At c' (time + looks * delay) after ∧ Growing c order number looks c'

/-- After another look, and what it finds. -/
def LookedAt (c : MemoryController) (order : Svm.Order) (number delay time looks : Nat)
    (finding : Option (Except Failure (Probe Svm))) (after : Systems × Log) : Prop :=
  (looks = 0 ∨ ¬c.Due looks) ∧
    finding = some (.ok (probeOf (c.grown order number (looks + 1)).svm)) ∧
      ∃ c', At c' (time + looks * delay) after ∧ Growing c order number (looks + 1) c'

/-- A look finds a machine ready just when it is due. -/
theorem probeOf_grown (c : MemoryController) (order : Svm.Order) (number looks : Nat) :
    c.Due (looks + 1) ∧ probeOf (c.grown order number (looks + 1)).svm =
        .ready (c.grown order number (looks + 1)).svm ∨
      ¬c.Due (looks + 1) ∧ probeOf (c.grown order number (looks + 1)).svm =
        .pending (c.lateCondition order.name (looks + 1)) := by
  have hready := MemoryController.isReady_grown c order number looks
  by_cases hdue : c.Due (looks + 1)
  · exact .inl ⟨hdue, by rw [probeOf, if_pos (hready.2 hdue)]⟩
  · refine .inr ⟨hdue, ?_⟩
    rw [probeOf, if_neg fun h => hdue (hready.1 h), MemoryController.condition_grown number hdue]

theorem ensures_poll_undisturbed (policy : RetryPolicy) (hat : At c time after)
    (hgrowing : Growing c order number 0 c) :
    (policy.poll engineTimer (lookAtSvm order.name)).Ensures undisturbed Program.anyStep
      (RetryPolicy.Ended (LookedAt c order number policy.maxDelay.nanoseconds time) (fun _ => False)
        (policy.pauses + 1)) after := by
  refine RetryPolicy.ensures_poll_ended (Late c order number policy.maxDelay.nanoseconds time) policy rfl
    ?_ ?_ ?_
  · refine ensures_cancelled_at hat fun after' hat' => ⟨.inl rfl, c, ?_, hgrowing⟩
    rw [Nat.zero_mul, Nat.add_zero]
    exact hat'
  · rintro n - after' ⟨hlate, c', hat', hgrowing'⟩
    exact (ensures_lookAtSvm_undisturbed hat' hgrowing').imp fun finding after'' h => ⟨hlate, h⟩
  · rintro n - condition after' ⟨-, hfinding, c', hat', hgrowing'⟩
    refine ensures_pause_at hat' fun after'' hat'' => ⟨.inr fun hdue => ?_, c', ?_, hgrowing'⟩
    · rcases probeOf_grown c order number n with ⟨-, hprobe⟩ | ⟨hlate, -⟩
      · rw [hprobe] at hfinding
        cases hfinding
      · exact hlate hdue
    · rw [Nat.succ_mul, ← Nat.add_assoc]
      exact hat''

theorem ensures_awaitSvm_undisturbed (policy : RetryPolicy) (hat : At c time after)
    (hgrowing : Growing c order number 0 c) :
    Program.Ensures undisturbed Program.anyStep
      (Arrived c order number (policy.pauses + 1) policy.maxDelay.nanoseconds time)
      (awaitSvm policy order.name).run after := by
  unfold awaitSvm
  rw [ExceptT.run_mk, Program.ensures_bind]
  refine (ensures_poll_undisturbed policy hat hgrowing).imp fun polled after' hended => ?_
  match polled, hended with
  | .ready svm attempts, ⟨n, hn, hattempts, hlate, hfinding, c', hat', hgrowing'⟩ =>
    rw [Program.ensures_bind]
    refine ensures_count_at hat' fun after'' hat'' => ?_
    rcases probeOf_grown c order number n with ⟨hdue, hprobe⟩ | ⟨-, hprobe⟩
    · rw [hprobe] at hfinding
      cases hfinding
      exact .of_due hn hdue hlate rfl ⟨c', hat'', hgrowing'⟩
    · rw [hprobe] at hfinding
      cases hfinding
  | .exhausted attempts condition, ⟨n, hn, hattempts, _, hfinding, c', hat', hgrowing'⟩ =>
    rw [Program.ensures_bind]
    refine ensures_count_at hat' fun after'' hat'' => ?_
    rcases probeOf_grown c order number n with ⟨-, hprobe⟩ | ⟨hlate, hprobe⟩
    · rw [hprobe] at hfinding
      cases hfinding
    · rw [hprobe] at hfinding
      cases hfinding
      rw [hattempts, ← hn]
      exact .of_late hlate rfl ⟨c', hat'', hgrowing'⟩
  | .failed failure, ⟨n, _, _, hfinding, _⟩ => cases hfinding
  | .cancelled, .inl ⟨n, _, _, hfinding, _⟩ => cases hfinding

/-! ### Before the wait -/

theorem ensures_selectNodes_undisturbed (hat : At c time after)
    (hnodes : minNodes ≤ (distinctNodes c.nodes).length) :
    Program.Ensures undisturbed Program.anyStep
      (fun result after' => result = .ok (distinctNodes c.nodes) ∧ At (c.perform .nodes).2 time after')
      selectNodes.run after := by
  refine ensures_selection (ensures_call_at hat rfl fun after' hat' => ⟨?_, hat'⟩)
  exact if_neg (Nat.not_lt.2 hnodes)

/-- A machine has just been ordered, where there was none. -/
structure JustOrdered (project : String) (c : MemoryController) (order : Svm.Order) (number : Nat)
    (c' : MemoryController) : Prop where
  name : order.name = project
  setup : c.SameSetup c'
  seen : Growing c' order number 0 c'
  tally : c'.tally = { c.tally with
    aggregateLists := c.tally.aggregateLists + 1
    svmCreates := c.tally.svmCreates + 1 }

theorem justOrdered_of_createSvm {order : Svm.Order} (hname : order.name = project)
    (hempty : ∀ name, c.machines.find? name = none) :
    JustOrdered project c order (c.assigned + 1)
      ((c.perform .aggregates).2.perform (.createSvm order)).2 := by
  have hcreate := MemoryController.becomes_perform (.createSvm order) (c.perform .aggregates).2
  have hfree : (c.perform .aggregates).2.machines.find? order.name = none := hempty order.name
  obtain ⟨-, hmachines⟩ := MemoryController.createSvm_of_none hfree
  have htally := hcreate.tally
  have hsetup := (MemoryController.becomes_perform .aggregates c).sameSetup.trans hcreate.sameSetup
  generalize ((c.perform .aggregates).2.perform (.createSvm order)).2 = c' at hmachines htally hsetup ⊢
  exact {
    name := hname
    setup := hsetup
    seen := {
      setup := .refl c'
      machine := by
        rw [hmachines]
        exact SortedMap.find?_insert_self _ _ _
      others := by
        intro name hne
        rw [hmachines, SortedMap.find?_insert_of_ne _ hne]
        exact hempty name
      tally := rfl }
    tally := htally }

theorem ensures_orderSvm_undisturbed (hat : At c time after)
    (hempty : ∀ name, c.machines.find? name = none) :
    Program.Ensures undisturbed Program.anyStep
      (fun result after' => result = .ok () ∧
        ∃ order number c', JustOrdered project c order number c' ∧ At c' time after')
      (orderSvm project).run after := by
  unfold orderSvm
  refine Program.Ensures.attempt (fun result after' => result = .ok c.aggregates ∧
    At (c.perform .aggregates).2 time after') ?_ ?_ ?_
  · exact ensures_within (ensures_call_at hat rfl fun after' hat' => ⟨rfl, hat'⟩)
  · rintro aggregates after₁ ⟨hok, hat₁⟩
    generalize horder : (⟨project, aggregates.map (·.name), true⟩ : Svm.Order) = order
    have hname : order.name = project := by rw [← horder]
    have hfree : (c.perform .aggregates).2.machines.find? order.name = none := hempty order.name
    obtain ⟨haccepted, -⟩ := MemoryController.createSvm_of_none hfree
    refine Program.Ensures.attempt (fun result after' => result = .ok () ∧
      At ((c.perform .aggregates).2.perform (.createSvm order)).2 time after') ?_ ?_ ?_
    · refine ensures_within (ensures_call_at hat₁ rfl fun after' hat' => ⟨?_, hat'⟩)
      rw [haccepted]
      rfl
    · rintro ⟨⟩ after₂ ⟨-, hat₂⟩
      refine Program.Ensures.lift (ensures_count_at hat₂ fun after₃ hat₃ => ?_)
      exact ⟨rfl, order, _, _, justOrdered_of_createSvm hname hempty, hat₃⟩
    · rintro failure after₂ ⟨⟨⟩, -⟩
  · rintro failure after₁ ⟨⟨⟩, -⟩

theorem ensures_ensureSvm_undisturbed (hat : At c time after)
    (hempty : ∀ name, c.machines.find? name = none) :
    Program.Ensures undisturbed Program.anyStep
      (fun result after' => ∃ order number c' waited,
        JustOrdered project (c.perform (.svmByName project)).2 order number c' ∧
          Arrived c' order number (looks engine) engine.readiness.maxDelay.nanoseconds time waited after' ∧
            result = (waited.mapError (.context project "wait for svm")).map (·, true))
      (ensureSvm engine project).run after := by
  unfold ensureSvm
  refine Program.Ensures.attempt (fun result after' => result = .ok none ∧
    At (c.perform (.svmByName project)).2 time after') ?_ ?_ ?_
  · have hnone : (c.perform (.svmByName project)).1 = .ok none :=
      congrArg Except.ok (congrArg (Option.map MemoryController.Machine.svm) (hempty project))
    refine ensures_within (ensures_call_at hat rfl fun after' hat' => ⟨?_, hat'⟩)
    rw [hnone]
    rfl
  · rintro found after₁ ⟨hok, hat₁⟩
    obtain rfl := Except.ok.inj hok
    refine Program.Ensures.attempt _ (ensures_orderSvm_undisturbed hat₁ hempty) ?_ ?_
    · rintro ⟨⟩ after₂ ⟨-, order, number, c', hordered, hat₂⟩
      obtain rfl := hordered.name
      refine Program.Ensures.attempt (fun result after' => ∃ waited,
        Arrived c' order number (looks engine) engine.readiness.maxDelay.nanoseconds time waited after' ∧
          result = waited.mapError (.context order.name "wait for svm")) ?_ ?_ ?_
      · have hwait := ensures_awaitSvm_undisturbed (.ofSettings engine.readiness) hat₂ hordered.seen
        rw [pauses_ofSettings] at hwait
        exact ensures_within (hwait.imp fun waited after₃ harrived => ⟨waited, harrived, rfl⟩)
      · rintro svm after₃ ⟨waited, harrived, hresult⟩
        exact ⟨order, number, c', waited, hordered, harrived, by rw [← hresult]; rfl⟩
      · rintro failure after₃ ⟨waited, harrived, hresult⟩
        exact ⟨order, number, c', waited, hordered, harrived, by rw [← hresult]; rfl⟩
    · rintro failure after₂ ⟨⟨⟩, -⟩
  · rintro failure after₁ ⟨⟨⟩, -⟩

/-! ### After the wait -/

/-- How often the machine was looked up after it was not there, how long was paused, and the machine itself. -/
structure Settled (c : MemoryController) (project : String) (looks delay : Nat) (svm : Svm)
    (after : Systems × Log) : Prop where
  names : after.1.controller.tally.svmNameLookups = c.tally.svmNameLookups + (looks + 1)
  uuids : after.1.controller.tally.svmUuidLookups = c.tally.svmUuidLookups + looks
  paused : timePaused after.2 = (looks - 1) * delay
  machine : after.1.controller.svmByName project = some svm

theorem Settled.step {delay : Nat} {svm : Svm} {action : Action} {answer : action.Answer}
    {before after : Systems × Log} (h : Settled c project n delay svm before)
    (hstep : undisturbed action before answer after) (haside : action.isAside = true) :
    Settled c project n delay svm after := by
  obtain ⟨⟨turn, -, hpair⟩, hlog⟩ := hstep
  obtain ⟨-, hafter⟩ := Prod.mk.inj hpair
  have hkept : after.1.controller.tally.svmNameLookups = before.1.controller.tally.svmNameLookups ∧
      after.1.controller.tally.svmUuidLookups = before.1.controller.tally.svmUuidLookups ∧
      after.1.controller.machines = before.1.controller.machines := by
    rw [hafter]
    exact controller_answer_of turn action
      (p := fun c' => c'.tally.svmNameLookups = before.1.controller.tally.svmNameLookups ∧
        c'.tally.svmUuidLookups = before.1.controller.tally.svmUuidLookups ∧
          c'.machines = before.1.controller.machines) ⟨rfl, rfl, rfl⟩
      fun call hcall => looksUpNone_of_isAside haside hcall before.1.controller
  obtain ⟨hnames, huuids, hmachines⟩ := hkept
  exact {
    names := hnames.trans h.names
    uuids := huuids.trans h.uuids
    paused := by
      have hlasts : timePaused [⟨before.1, action, answer, after.1⟩] = 0 := lasts_of_isAside haside
      rw [hlog, timePaused_append, h.paused, hlasts, Nat.add_zero]
    machine := by
      rw [MemoryController.svmByName, hmachines]
      exact h.machine }

theorem ensures_settled {α : Type} {p : Engine α} {delay : Nat} {svm : Svm}
    (hasks : Program.Asks (S := actions) (fun action => Action.isAside action = true) p)
    (h : Settled c project n delay svm after) :
    p.Ensures undisturbed Program.anyStep (fun _ after' => Settled c project n delay svm after') after := by
  have hkept := (hasks.ensures undisturbed after).keep (Settled c project n delay svm) h
    fun _ _ _ _ hstep haside h => h.step hstep haside
  exact hkept.mono (fun _ _ _ _ _ => trivial) fun _ _ hpost => hpost.2

theorem asks_allocate_aside (engine : Settings.Engine) (request : EndpointRequest) (nodes : List Node) :
    Program.Asks (S := actions) (fun action => Action.isAside action = true)
      (allocate engine request nodes).run :=
  asks_allocate rfl (fun _ _ => rfl) fun _ => rfl

theorem asks_reconcile_aside (engine : Settings.Engine) (project : String) (svm : Svm) :
    Program.Asks (S := actions) (fun action => Action.isAside action = true)
      (reconcile engine project svm).run :=
  asks_reconcile svm rfl (fun _ _ => rfl) (fun _ _ => rfl) (fun _ _ _ => rfl) (fun _ => ⟨rfl, rfl⟩) rfl rfl

/-! ### The whole run -/

/-- The tally of a run that only ordered a machine and looked at it so often. -/
def waitTally (tally : CallTally) (looks : Nat) : CallTally :=
  { tally with
    svmNameLookups := tally.svmNameLookups + 1 + looks
    svmUuidLookups := tally.svmUuidLookups + looks
    svmCreates := tally.svmCreates + 1
    nodeLists := tally.nodeLists + 1
    aggregateLists := tally.aggregateLists + 1 }

/-- How a run goes on after the wait for its new machine. -/
def WentOn (project : String) (svm : Svm) : Except Failure Outcome → Prop
  | .ok outcome => outcome.svm = svm ∧ outcome.created = true
  | .error failure => ∃ operation source, failure = .context project operation source ∧
      operation ≠ "wait for svm"

/-- What a run comes to that has to order its machine. -/
def Decided (engine : Settings.Engine) (project : String) (c : MemoryController)
    (result : Except Failure Outcome) (after : Systems × Log) : Prop :=
  match c.comesUpAfter?.filter (· ≤ looks engine) with
  | some t => ∃ svm, svm.isReady = true ∧ WentOn project svm result ∧
      Settled c project t engine.readiness.maxDelay.nanoseconds svm after
  | none => result = .error (.context project "wait for svm"
        (.readinessTimeout project (looks engine) (c.lateCondition project (looks engine)))) ∧
      ∃ c', c'.tally = waitTally c.tally (looks engine) ∧
        At c' ((looks engine - 1) * engine.readiness.maxDelay.nanoseconds) after

/-- A part of a run after the wait, which may fail under its own name. -/
theorem ensures_part_settled {α : Type} {attempt : Attempt α} {operation : String} {svm : Svm} {delay : Nat}
    (hasks : Program.Asks (S := actions) (fun action => Action.isAside action = true) attempt.run)
    (h : Settled c project n delay svm after) :
    Program.Ensures undisturbed Program.anyStep
      (fun result after' => (∀ failure, result = .error failure →
        ∃ source, failure = .context project operation source) ∧ Settled c project n delay svm after')
      (Engine.within project operation attempt).run after := by
  refine ensures_within ((ensures_settled hasks h).imp fun result after' hsettled => ⟨?_, hsettled⟩)
  cases result with
  | ok _ => rintro _ ⟨⟩
  | error source =>
    rintro _ ⟨⟩
    exact ⟨source, rfl⟩

/-- The rest of a run whose machine has come up. -/
theorem ensures_rest {svm : Svm} {request : Request} {nodes : List Node} {delay : Nat}
    (h : Settled c project n delay svm after) :
    Program.Ensures undisturbed Program.anyStep
      (fun result after' => WentOn project svm result ∧ Settled c project n delay svm after')
      (do
        let svmUuid ← Engine.within project "resolve svm uuid" (liftM (requireUuid svm))
        let endpoints : EndpointRequest :=
          { svmUuid, dataIps := request.dataIps, managementIp := request.managementIp }
        let interfaces ← Engine.within project "allocate interfaces" (allocate engine endpoints nodes)
        let credentials ← Engine.within project "reconcile credentials" (reconcile engine project svm)
        return { svm, created := true, interfaces, credentials } : Attempt Outcome).run after := by
  have hresolve : Program.Asks (S := actions) (fun action => Action.isAside action = true)
      (liftM (requireUuid svm) : Attempt String).run := trivial
  refine Program.Ensures.attempt _ (ensures_part_settled hresolve h) ?_ ?_
  · rintro uuid after₁ ⟨-, h₁⟩
    refine Program.Ensures.attempt _ (ensures_part_settled (asks_allocate_aside ..) h₁) ?_ ?_
    · rintro interfaces after₂ ⟨-, h₂⟩
      refine Program.Ensures.attempt _ (ensures_part_settled (asks_reconcile_aside ..) h₂) ?_ ?_
      · rintro credentials after₃ ⟨-, h₃⟩
        exact ⟨⟨rfl, rfl⟩, h₃⟩
      · rintro failure after₃ ⟨hfailure, h₃⟩
        obtain ⟨source, rfl⟩ := hfailure failure rfl
        exact ⟨⟨_, source, rfl, by decide⟩, h₃⟩
    · rintro failure after₂ ⟨hfailure, h₂⟩
      obtain ⟨source, rfl⟩ := hfailure failure rfl
      exact ⟨⟨_, source, rfl, by decide⟩, h₂⟩
  · rintro failure after₁ ⟨hfailure, h₁⟩
    obtain ⟨source, rfl⟩ := hfailure failure rfl
    exact ⟨⟨_, source, rfl, by decide⟩, h₁⟩

/-- What the wait came to, in terms of the controller that the run began with. -/
theorem arrived_cases {waited : Except Failure Svm}
    (hordered : JustOrdered project ((c.perform .nodes).2.perform (.svmByName project)).2 order number c')
    (h : Arrived c' order number (looks engine) engine.readiness.maxDelay.nanoseconds 0 waited after) :
    (∃ t svm, c.comesUpAfter?.filter (· ≤ looks engine) = some t ∧ waited = .ok svm ∧
        svm.isReady = true ∧
        Settled c project t engine.readiness.maxDelay.nanoseconds svm after) ∨
      c.comesUpAfter?.filter (· ≤ looks engine) = none ∧
        waited = .error (.readinessTimeout project (looks engine)
          (c.lateCondition project (looks engine))) ∧
        ∃ c', c'.tally = waitTally c.tally (looks engine) ∧
          At c' ((looks engine - 1) * engine.readiness.maxDelay.nanoseconds) after := by
  have hcomes : c'.comesUpAfter? = c.comesUpAfter? := by
    rw [MemoryController.comesUpAfter?, hordered.setup.runningAfter, hordered.setup.nvmeAfter]
    rfl
  have hlate : c'.lateCondition = c.lateCondition := by
    funext name looks
    rw [MemoryController.lateCondition, hordered.setup.runningAfter]
    rfl
  obtain rfl := hordered.name
  rw [Arrived, hcomes, hlate] at h
  cases hfilter : c.comesUpAfter?.filter (· ≤ looks engine) with
  | some t =>
    simp only [hfilter, Nat.zero_add] at h
    obtain ⟨hwaited, hready, c'', hat, hgrowing⟩ := h
    refine .inl ⟨t, _, rfl, hwaited, hready, ?_⟩
    exact {
      names := by
        rw [hat.controller, hgrowing.tally, hordered.tally]
        change c.tally.svmNameLookups + 1 + t = c.tally.svmNameLookups + (t + 1)
        omega
      uuids := by
        rw [hat.controller, hgrowing.tally, hordered.tally]
        rfl
      paused := hat.paused
      machine := by
        rw [hat.controller, MemoryController.svmByName, hgrowing.machine]
        rfl }
  | none =>
    simp only [hfilter, Nat.zero_add] at h
    obtain ⟨hwaited, c'', hat, hgrowing⟩ := h
    refine .inr ⟨rfl, hwaited, c'', ?_, hat⟩
    rw [hgrowing.tally, hordered.tally]
    rfl

theorem ensures_steps_undisturbed {request : Request} (hvalid : request.validate = .ok ())
    (hnodes : minNodes ≤ (distinctNodes c.nodes).length) (hempty : ∀ name, c.machines.find? name = none)
    (hat : At c 0 after) :
    Program.Ensures undisturbed Program.anyStep (Decided engine request.projectId c)
      (request.steps engine).run after := by
  unfold Request.steps
  refine Program.Ensures.check ?_ fun failure hinvalid => by cases hvalid.symm.trans hinvalid
  intro _ _
  refine Program.Ensures.attempt (fun result after' => result = .ok (distinctNodes c.nodes) ∧
    At (c.perform .nodes).2 0 after') ?_ ?_ ?_
  · refine ensures_within ((ensures_selectNodes_undisturbed hat hnodes).imp fun result after' h => ?_)
    rw [h.1]
    exact ⟨rfl, h.2⟩
  · rintro nodes after₁ ⟨-, hat₁⟩
    refine Program.Ensures.attempt _ (ensures_ensureSvm_undisturbed hat₁ hempty) ?_ ?_
    · rintro ⟨svm, created⟩ after₂ ⟨order, number, c', waited, hordered, harrived, hresult⟩
      rcases arrived_cases hordered harrived with
        ⟨t, svm, hfilter, rfl, hready, hsettled⟩ | ⟨-, rfl, -⟩
      · cases hresult
        refine (ensures_rest hsettled).imp fun result after₃ h => ?_
        rw [Decided, hfilter]
        exact ⟨svm, hready, h⟩
      · cases hresult
    · rintro failure after₂ ⟨order, number, c', waited, hordered, harrived, hresult⟩
      rcases arrived_cases hordered harrived with ⟨t, svm, -, rfl, -⟩ | ⟨hfilter, rfl, hrest⟩
      · cases hresult
      · cases hresult
        rw [Decided, hfilter]
        exact ⟨rfl, hrest⟩
  · rintro failure after₁ ⟨⟨⟩, -⟩

theorem ensures_provision_undisturbed {request : Request} (hvalid : request.validate = .ok ())
    (hnodes : minNodes ≤ (distinctNodes c.nodes).length) (hempty : ∀ name, c.machines.find? name = none)
    (hat : At c 0 after) :
    Program.Ensures undisturbed Program.anyStep (Decided engine request.projectId c)
      (request.provision engine).run after := by
  unfold Request.provision
  rw [ExceptT.run_mk, Program.ensures_bind]
  refine (ensures_steps_undisturbed hvalid hnodes hempty hat).imp fun result after₁ hdecided => ?_
  rw [Program.ensures_bind]
  -- the end of the run is counted, which changes nothing of this
  cases hfilter : c.comesUpAfter?.filter (· ≤ looks engine) with
  | some t =>
    simp only [Decided, hfilter] at hdecided
    obtain ⟨svm, hready, hwentOn, hsettled⟩ := hdecided
    have hcount : Program.Asks (S := actions) (fun action => Action.isAside action = true)
        (Engine.count (.provision result.isOk)) := .perform rfl
    refine (ensures_settled hcount hsettled).imp fun _ after₂ hsettled₂ => ?_
    change Decided engine request.projectId c result after₂
    rw [Decided, hfilter]
    exact ⟨svm, hready, hwentOn, hsettled₂⟩
  | none =>
    simp only [Decided, hfilter] at hdecided
    obtain ⟨hresult, c', htally, hat₁⟩ := hdecided
    refine ensures_count_at hat₁ fun after₂ hat₂ => ?_
    change Decided engine request.projectId c result after₂
    rw [Decided, hfilter]
    exact ⟨hresult, c', htally, hat₂⟩

/-- A run for which there is no machine yet, when nothing goes wrong and nothing is cancelled.  The wait for
    the new machine succeeds just when the machine comes up within the looks that are allowed; then the run goes
    on with it, and looks no more.  Otherwise the run fails and has asked for nothing but the machine. -/
theorem provision_when_ready (engine : Settings.Engine) {request : Request} {course : Course} {s : Systems}
    (hvalid : request.validate = .ok ()) (hcourse : ∀ turn, (course turn).Undisturbed)
    (hnodes : ∃ node ∈ s.controller.nodes, ∃ other ∈ s.controller.nodes, node.uuid ≠ other.uuid)
    (hempty : ∀ name, s.controller.svmByName name = none) :
    let project := request.projectId
    let allowed := looks engine
    let delay := engine.readiness.maxDelay.nanoseconds
    let result := (s.run course (request.provision engine)).1
    let final := (s.run course (request.provision engine)).2.controller
    let steps := s.moves course (request.provision engine)
    match s.controller.comesUpAfter?.filter (· ≤ allowed) with
    | some t => ∃ svm, svm.isReady = true ∧ final.svmByName project = some svm ∧
        WentOn project svm result ∧
        final.tally.svmNameLookups = s.controller.tally.svmNameLookups + (t + 1) ∧
        final.tally.svmUuidLookups = s.controller.tally.svmUuidLookups + t ∧
        timePaused steps = (t - 1) * delay
    | none =>
        result = .error (.context project "wait for svm"
          (.readinessTimeout project allowed (s.controller.lateCondition project allowed))) ∧
        final.tally = waitTally s.controller.tally allowed ∧
        timePaused steps = (allowed - 1) * delay ∧
        ∀ step ∈ steps, ∀ call, Action.call? step.op = some call → call.isForMachine = true := by
  intro project allowed delay result final steps
  have hmachines (name : String) : s.controller.machines.find? name = none :=
    Option.map_eq_none_iff.1 (hempty name)
  have hstart : At s.controller 0 (s, []) := ⟨rfl, rfl, by simp⟩
  have hdecided : Decided engine project s.controller result
      ((s.run course (request.provision engine)).2, steps) :=
    ((ensures_provision_undisturbed hvalid (minNodes_le_iff.2 hnodes) hmachines hstart).run_logged
      (handle_conduct hcourse)).1
  cases hfilter : s.controller.comesUpAfter?.filter (· ≤ allowed) with
  | some t =>
    rw [Decided, hfilter] at hdecided
    obtain ⟨svm, hready, hwentOn, hsettled⟩ := hdecided
    exact ⟨svm, hready, hsettled.machine, hwentOn, hsettled.names, hsettled.uuids, hsettled.paused⟩
  | none =>
    rw [Decided, hfilter] at hdecided
    obtain ⟨hresult, c', htally, hat⟩ := hdecided
    exact ⟨hresult, by rw [← htally, ← hat.controller], hat.paused, hat.calls⟩

/-- Two nodes and no machine; a new machine runs at the second look and serves NVMe at the fourth. -/
def slowStart : Systems :=
  ⟨((MemoryController.initial.withNodes [⟨"node-1", "n1"⟩, ⟨"node-2", "n2"⟩]).readyAfter 2).withNvmeAfter 4,
    .empty, 0⟩

/-- A run with which nothing goes wrong. -/
def calmRun : Attempted :=
  ⟨⟨"tenant-a", [.v4 ⟨10, 0, 0, 1⟩], .v4 ⟨10, 0, 0, 9⟩⟩, fun _ => ⟨none, false, "password"⟩⟩

theorem provision_at_fourth_look :
    calmRun.request.validate = .ok () ∧ (∀ turn, (calmRun.course turn).Undisturbed) ∧
      (∃ node ∈ slowStart.controller.nodes, ∃ other ∈ slowStart.controller.nodes, node.uuid ≠ other.uuid) ∧
      (∀ name, slowStart.controller.svmByName name = none) ∧
      ∃ svm, svm.isReady = true ∧
        (calmRun.final default slowStart).controller.svmByName "tenant-a" = some svm ∧
        WentOn "tenant-a" svm (calmRun.result default slowStart) ∧
        (calmRun.final default slowStart).controller.tally.svmNameLookups = 5 ∧
        (calmRun.final default slowStart).controller.tally.svmUuidLookups = 4 ∧
        timePaused (calmRun.moves default slowStart) = 15 * 1000000000 := by
  have hcalm (turn : Nat) : (calmRun.course turn).Undisturbed := ⟨rfl, rfl⟩
  have hnodes : ∃ node ∈ slowStart.controller.nodes, ∃ other ∈ slowStart.controller.nodes,
      node.uuid ≠ other.uuid :=
    ⟨⟨"node-1", "n1"⟩, by decide, ⟨"node-2", "n2"⟩, by decide, by decide⟩
  have hempty (name : String) : slowStart.controller.svmByName name = none := rfl
  exact ⟨rfl, hcalm, hnodes, hempty, provision_when_ready default rfl hcalm hnodes hempty⟩

end Provision

end TenantStorage
