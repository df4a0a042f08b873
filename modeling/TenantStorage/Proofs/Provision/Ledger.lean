import TenantStorage.Proofs.Memory.Histories
import TenantStorage.Proofs.Provision.Asks
import TenantStorage.Proofs.Provision.Histories
import TenantStorage.Proofs.Provision.Recovery

namespace TenantStorage

open Systems

/-!
# Metrics and what was done

An event is counted after what it stands for was done, so between the two it is owed.  `Books` are in order when
the events that were counted, with those that are still owed, are the events that were owed before and one for
each thing that was done.  Books in a row are books again, and at the end of a run nothing is owed.

* `Turn.Honest` — a call that fails had no effect.
* `rotates`, `waits` — what else was done than what the systems show: passwords replaced, and waits ended.
* `Books`, `Books.trans` — books in order, and in a row.
* `Keeps` — a program that keeps them in order; `Keeps.bind` and its like put it together from the parts.
* `Balanced` — a program before and after which nothing is owed.
* `Quiet`, `keeps_of_asks` — actions that have nothing to do with the books.
* `keeps_call` — a call after which its event is owed; `keeps_count` — the event is counted.
* `keeps_wait` — a wait, after which its end is owed.
* `balanced_steps`, `books_history` — a run, and runs one after another.
* `accounts_of_history` — what the counters say after them.
-/

/-- A call that fails has had no effect. -/
def Turn.Honest (turn : Turn) : Prop := ∀ failure, turn.mishap ≠ some (.after failure)

/-- Of an honest call either nothing goes wrong, or it fails and has no effect. -/
theorem Turn.Honest.cases {turn : Turn} (h : turn.Honest) :
    turn.Faultless ∨ ∃ failure, turn.mishap = some (.before failure) := by
  cases hmishap : turn.mishap with
  | none => exact .inl hmishap
  | some mishap =>
    cases mishap with
    | before failure => exact .inr ⟨failure, rfl⟩
    | after failure => exact absurd hmishap (h failure)

/-- Whether a wait has come to know whether the machine is ready. -/
def Polled.isSample {α : Type} : Polled α → Bool
  | ready _ _ | exhausted _ _ => true
  | failed _ | cancelled => false

namespace Provision

variable {engine : Settings.Engine} {run : Attempted} {α β : Type}

/-! ### What was done -/

/-- The steps of a program under the course of a run. -/
def trace (run : Attempted) (p : Engine α) (s : Systems) : Log :=
  Program.moves (S := actions) (handle run.course) p s

/-- What a program comes to under the course of a run. -/
def ends (run : Attempted) (p : Engine α) (s : Systems) : α × Systems :=
  Program.run (S := actions) (handle run.course) p s

theorem trace_bind (p : Engine α) (next : α → Engine β) (s : Systems) :
    trace run (p >>= next) s = trace run p s ++ trace run (next (ends run p s).1) (ends run p s).2 :=
  Program.moves_bind (S := actions) p next s

theorem ends_bind (p : Engine α) (next : α → Engine β) (s : Systems) :
    ends run (p >>= next) s = ends run (next (ends run p s).1) (ends run p s).2 :=
  Program.run_bind (S := actions) (handle run.course) p next s

/-- Whether the controller has replaced a password in a step. -/
def rotates (move : Program.Move actions Systems) : Bool :=
  match Action.controllerCall? move.op with
  | some (.setPassword ownerUuid username password) =>
    let carriedOut := move.before.controller.perform (.setPassword ownerUuid username password)
    carriedOut.1.isOk && decide (move.after.controller = carriedOut.2)
  | _ => false

/-- The wait of a run for its machine. -/
def wait (engine : Settings.Engine) (run : Attempted) : Engine (Polled Svm) :=
  (RetryPolicy.ofSettings engine.readiness).poll engineTimer (lookAtSvm run.request.projectId)

/-- How the wait ends that a run starts with a step, if it starts one.  Only a wait asks whether the cancellation
    has arrived, and it does so once, before its first look. -/
def waitEnd? (engine : Settings.Engine) (run : Attempted) (move : Program.Move actions Systems) :
    Option (Polled Svm) :=
  match move.op with
  | .cancelled => some (ends run (wait engine run) move.before).1
  | _ => none

/-- How the waits in the steps of a run have ended. -/
def waits (engine : Settings.Engine) (run : Attempted) (log : Log) : List (Polled Svm) :=
  log.filterMap (waitEnd? engine run)

theorem waits_append (log log' : Log) :
    waits engine run (log ++ log') = waits engine run log ++ waits engine run log' :=
  List.filterMap_append

/-! ### Books -/

/-- Books in order: from a state in which `owed` was owed, through steps in which waits have `ended`, to a state in
    which `due` is owed. -/
structure Books (owed : List Event) (s : Systems) (log : Log) (ended : List (Polled Svm)) (s' : Systems)
    (due : List Event) : Prop where
  provisions : ∀ success, (events log ++ due).count (.provision success) = owed.count (.provision success)
  svms : ∃ accepted, s'.controller.orders = s.controller.orders ++ accepted ∧
    (events log ++ due).count .svmCreated = owed.count .svmCreated + accepted.length
  waits : (events log ++ due).countP Event.isReadiness =
    owed.countP Event.isReadiness + ended.countP Polled.isSample
  interfaces : ∃ added, s'.controller.interfaces = s.controller.interfaces ++ added ∧
    ∀ role, (events log ++ due).count (.interfaceCreated role) =
      owed.count (.interfaceCreated role) + added.countP (·.role == role)
  rotations : (events log ++ due).count .rotation = owed.count .rotation + log.countP rotates

/-- Nothing was done. -/
theorem Books.refl (owed : List Event) (s : Systems) : Books owed s [] [] s owed where
  provisions _ := rfl
  svms := ⟨[], (List.append_nil _).symm, rfl⟩
  waits := rfl
  interfaces := ⟨[], (List.append_nil _).symm, fun _ => rfl⟩
  rotations := rfl

/-- Books in a row.  What was owed besides is still owed after the first. -/
theorem Books.append {owed due due' more : List Event} {s s' s'' : Systems} {log log' : Log}
    {ended ended' : List (Polled Svm)} (h : Books owed s log ended s' due)
    (h' : Books (due ++ more) s' log' ended' s'' due') :
    Books (owed ++ more) s (log ++ log') (ended ++ ended') s'' due' where
  provisions success := by
    have hfirst := h.provisions success
    have hsecond := h'.provisions success
    simp only [events_append, List.count_append] at hfirst hsecond ⊢
    omega
  svms := by
    obtain ⟨accepted, horders, hfirst⟩ := h.svms
    obtain ⟨accepted', horders', hsecond⟩ := h'.svms
    refine ⟨accepted ++ accepted', by rw [horders', horders, List.append_assoc], ?_⟩
    simp only [events_append, List.count_append, List.length_append] at hfirst hsecond ⊢
    omega
  waits := by
    have hfirst := h.waits
    have hsecond := h'.waits
    simp only [events_append, List.countP_append] at hfirst hsecond ⊢
    omega
  interfaces := by
    obtain ⟨added, hinterfaces, hfirst⟩ := h.interfaces
    obtain ⟨added', hinterfaces', hsecond⟩ := h'.interfaces
    refine ⟨added ++ added', by rw [hinterfaces', hinterfaces, List.append_assoc], fun role => ?_⟩
    have hfirst := hfirst role
    have hsecond := hsecond role
    simp only [events_append, List.count_append, List.countP_append] at hfirst hsecond ⊢
    omega
  rotations := by
    have hfirst := h.rotations
    have hsecond := h'.rotations
    simp only [events_append, List.count_append, List.countP_append] at hfirst hsecond ⊢
    omega

/-- Books in a row, when nothing else was owed. -/
theorem Books.trans {owed due due' : List Event} {s s' s'' : Systems} {log log' : Log}
    {ended ended' : List (Polled Svm)} (h : Books owed s log ended s' due)
    (h' : Books due s' log' ended' s'' due') : Books owed s (log ++ log') (ended ++ ended') s'' due' := by
  rw [← List.append_nil due] at h'
  rw [← List.append_nil owed]
  exact h.append h'

/-- Nothing was done, and what was owed was counted or is still owed. -/
theorem Books.idle {owed due : List Event} {s s' : Systems} {log : Log}
    (horders : s'.controller.orders = s.controller.orders)
    (hinterfaces : s'.controller.interfaces = s.controller.interfaces) (hrotates : log.countP rotates = 0)
    (hevents : events log ++ due = owed) : Books owed s log [] s' due where
  provisions success := by rw [hevents]
  svms := ⟨[], by rw [horders, List.append_nil], by rw [hevents]; rfl⟩
  waits := by rw [hevents]; rfl
  interfaces := ⟨[], by rw [hinterfaces, List.append_nil], fun role => by rw [hevents]; rfl⟩
  rotations := by rw [hevents, hrotates, Nat.add_zero]

/-! ### Programs that keep books -/

/-- A program that keeps the books of a run in order, from what is owed before it to what is owed after it. -/
def Keeps (engine : Settings.Engine) (run : Attempted) (owed : List Event) (p : Engine α)
    (due : α → List Event) : Prop :=
  ∀ s, Books owed s (trace run p s) (waits engine run (trace run p s)) (ends run p s).2 (due (ends run p s).1)

theorem Keeps.done {owed : List Event} {due : α → List Event} {value : α} (h : owed = due value) :
    Keeps engine run owed (Program.done value) due := by
  intro s
  rw [h]
  exact .refl _ s

theorem Keeps.bind {owed : List Event} {between : α → List Event} {due : β → List Event} {p : Engine α}
    {next : α → Engine β} (hp : Keeps engine run owed p between)
    (hnext : ∀ value, Keeps engine run (between value) (next value) due) :
    Keeps engine run owed (p >>= next) due := by
  intro s
  rw [trace_bind, waits_append, ends_bind]
  exact (hp s).trans (hnext (ends run p s).1 (ends run p s).2)

/-- A sequence of attempts; what a failure of the first owes is still owed at the end. -/
theorem Keeps.attempt {owed : List Event} {between : Except Failure α → List Event}
    {due : Except Failure β → List Event} {first : Attempt α} {next : α → Attempt β}
    (hfirst : Keeps engine run owed first.run between)
    (hok : ∀ value, Keeps engine run (between (.ok value)) (next value).run due)
    (herror : ∀ failure, between (.error failure) = due (.error failure)) :
    Keeps engine run owed (first >>= next).run due := by
  rw [ExceptT.run_bind]
  refine hfirst.bind fun result => ?_
  cases result with
  | ok value => exact hok value
  | error failure => exact .done (herror failure)

/-- A program that cannot fail, followed by an attempt. -/
theorem Keeps.lift {owed : List Event} {between : α → List Event} {due : Except Failure β → List Event}
    {first : Engine α} {next : α → Attempt β} (hfirst : Keeps engine run owed first between)
    (hnext : ∀ value, Keeps engine run (between value) (next value).run due) :
    Keeps engine run owed ((liftM first : Attempt α) >>= next).run due := by
  have hrun : ((liftM first : Attempt α) >>= next).run = first >>= fun value => (next value).run :=
    ExceptT.run_bind_lift first next
  rw [hrun]
  exact hfirst.bind hnext

/-- A program before and after which nothing is owed. -/
def Balanced (engine : Settings.Engine) (run : Attempted) (p : Engine α) : Prop :=
  Keeps engine run [] p fun _ => []

theorem Balanced.attempt {first : Attempt α} {next : α → Attempt β} (hfirst : Balanced engine run first.run)
    (hnext : ∀ value, Balanced engine run (next value).run) : Balanced engine run (first >>= next).run :=
  Keeps.attempt hfirst hnext fun _ => rfl

/-- A check does nothing. -/
theorem Balanced.check {check : Except Failure α} {next : α → Attempt β}
    (hnext : ∀ value, Balanced engine run (next value).run) :
    Balanced engine run ((liftM check : Attempt α) >>= next).run := by
  cases check with
  | ok value => exact hnext value
  | error failure => exact Keeps.done rfl

/-- Nothing is done to say of a failure where it happened. -/
theorem Balanced.within {attempt : Attempt α} {project operation : String}
    (h : Balanced engine run attempt.run) :
    Balanced engine run (Engine.within project operation attempt).run :=
  Keeps.bind h fun _ => .done rfl

/-! ### Actions that are not in the books -/

/-- The event that stands for what a call makes or replaces, if there is one. -/
def eventOf : ControllerCall → Option Event
  | .createSvm _ => some .svmCreated
  | .createInterface interface => some (.interfaceCreated interface.role)
  | .setPassword _ _ _ => some .rotation
  | _ => none

/-- An action that has nothing to do with the books. -/
def isQuiet : Action → Bool
  | .cancelled | .count _ => false
  | action => (action.controllerCall?.bind eventOf).isNone

/-- The property that an action is quiet. -/
def Quiet (action : Action) : Prop := isQuiet action = true

theorem Quiet.call {action : Action} {call : ControllerCall} (h : Quiet action)
    (hcall : action.controllerCall? = some call) : eventOf call = none := by
  rw [Quiet, isQuiet.eq_def] at h
  split at h
  · cases h
  · cases h
  · simpa [hcall] using h

/-- A quiet action counts nothing and starts no wait. -/
theorem Quiet.unseen (engine : Settings.Engine) (run : Attempted) {move : Program.Move actions Systems}
    (h : Quiet move.op) : Action.event? move.op = none ∧ waitEnd? engine run move = none := by
  rcases move with ⟨s, action, answer, s'⟩
  cases action with
  | call _ | watch _ | pause _ | password => exact ⟨rfl, rfl⟩
  | cancelled | count _ => cases h

/-- No password is replaced by a call for which no event stands. -/
theorem rotates_of_none {move : Program.Move actions Systems}
    (h : ∀ call, Action.controllerCall? move.op = some call → eventOf call = none) : rotates move = false := by
  rw [rotates]
  split
  · rename_i hcall
    cases h _ hcall
  · rfl

/-- A call for which no event stands accepts no order and creates no interface. -/
theorem unaltered_of_becomes {call : ControllerCall} {c c' : MemoryController} (h : c.Becomes call c')
    (hcall : eventOf call = none) : c'.orders = c.orders ∧ c'.interfaces = c.interfaces := by
  cases h with
  | ordered _ | connected _ => cases hcall
  | same _ | looked _ | opened _ | rotated _ => exact ⟨rfl, rfl⟩

/-- A quiet action leaves the books as they are. -/
theorem keeps_quiet {action : Action} (h : Quiet action) (owed : List Event) :
    Keeps engine run owed (Program.perform (S := actions) action) fun _ => owed := by
  intro s
  obtain ⟨horders, hinterfaces⟩ := controller_answer_of (run.course s.turn) action
    (p := fun c => c.orders = s.controller.orders ∧ c.interfaces = s.controller.interfaces) ⟨rfl, rfl⟩
    fun call hcall => unaltered_of_becomes (MemoryController.becomes_perform call _) (h.call hcall)
  generalize hmove : (⟨s, action, (handle run.course action s).1, (handle run.course action s).2⟩ :
    Program.Move actions Systems) = move
  have hop : move.op = action := by rw [← hmove]
  have htrace : trace run (Program.perform (S := actions) action) s = [move] := by rw [← hmove]; rfl
  obtain ⟨hevent, hwait⟩ := Quiet.unseen engine run (hop ▸ h)
  have hrotates : rotates move = false := rotates_of_none fun call hcall => h.call (hop ▸ hcall)
  rw [htrace, waits, List.filterMap_cons_none hwait]
  exact .idle horders hinterfaces (by simp [hrotates]) (by simp [events, hevent])

theorem balanced_password : Balanced engine run Engine.password :=
  keeps_quiet (show Quiet .password from rfl) []

theorem balanced_secrets (call : SecretCall) : Balanced engine run (Engine.secrets call).run :=
  keeps_quiet (show Quiet (.call (.secrets call)) from rfl) []

/-- A program that asks for quiet actions only leaves the books as they are. -/
theorem keeps_of_asks {p : Engine α} (h : Program.Asks (S := actions) Quiet p) (owed : List Event) :
    Keeps engine run owed p fun _ => owed := by
  induction p with
  | done value => exact .done rfl
  | ask action resume ih =>
    have hbind : Program.ask action resume = Program.perform (S := actions) action >>= resume := rfl
    rw [hbind]
    exact (keeps_quiet h.1 owed).bind fun answer => ih answer (h.2 answer)

/-! ### Counting -/

/-- An event that is owed is counted. -/
theorem keeps_count (event : Event) : Keeps engine run [event] (Engine.count event) fun _ => [] :=
  fun _ => .idle rfl rfl rfl rfl

/-! ### Calls after which an event is owed -/

/-- What is owed after a call: its event, if the call was successful. -/
def dueAfter (call : ControllerCall) : Except Failure α → List Event
  | .ok _ => (eventOf call).toList
  | .error _ => []

/-- A call that succeeds makes what its event stands for. -/
theorem made_of_ok {call : ControllerCall} {c : MemoryController} {value : call.Answer}
    (h : (c.perform call).1 = .ok value) :
    (∃ accepted, (c.perform call).2.orders = c.orders ++ accepted ∧
      (eventOf call).toList.count .svmCreated = accepted.length) ∧
    ∃ added, (c.perform call).2.interfaces = c.interfaces ++ added ∧
      ∀ role, (eventOf call).toList.count (.interfaceCreated role) = added.countP (·.role == role) := by
  have hbecomes := MemoryController.becomes_perform call c
  cases call with
  | createSvm order =>
    have hinterfaces := hbecomes.interfaces (by rintro ⟨⟩)
    refine ⟨⟨[order], ?_, rfl⟩, [], by rw [hinterfaces, List.append_nil], fun _ => rfl⟩
    simp only [MemoryController.perform, MemoryController.answer] at h ⊢
    split at h
    · cases h
    · rename_i hfree
      rw [if_neg hfree]
  | createInterface interface =>
    have horders := hbecomes.orders (by rintro ⟨⟩)
    refine ⟨⟨[], by rw [horders, List.append_nil], rfl⟩, [interface], ?_, fun role => ?_⟩
    · simp only [MemoryController.perform, MemoryController.answer] at h ⊢
      split at h
      · cases h
      · rename_i hallowed
        split at h
        · cases h
        · rename_i hfree
          rw [if_neg hallowed, if_neg hfree]
    · simp [eventOf, List.count_cons, List.countP_cons]
  | setPassword _ _ _ =>
    have horders := hbecomes.orders (by rintro ⟨⟩)
    have hinterfaces := hbecomes.interfaces (by rintro ⟨⟩)
    exact ⟨⟨[], by rw [horders, List.append_nil], rfl⟩, [], by rw [hinterfaces, List.append_nil],
      fun _ => rfl⟩
  | svmByName _ | svm _ | nodes | aggregates | peerGroups | createAccount _ | account _ _ =>
    obtain ⟨horders, hinterfaces⟩ := unaltered_of_becomes hbecomes rfl
    exact ⟨⟨[], by rw [horders, List.append_nil], rfl⟩, [], by rw [hinterfaces, List.append_nil],
      fun _ => rfl⟩

/-- Every call is tallied. -/
theorem perform_ne (call : ControllerCall) (c : MemoryController) : c ≠ (c.perform call).2 := by
  intro h
  have htally : c.tally = c.tally.add call :=
    (congrArg MemoryController.tally h).trans (MemoryController.becomes_perform call c).tally
  have hcounts := congrArg CallTally.toList htally
  cases call <;> simp [CallTally.add, CallTally.toList] at hcounts

/-- A password is replaced by a call that succeeds, and by no other. -/
theorem rotates_call {turn : Turn} (h : turn.Honest) (call : ControllerCall) (s : Systems) :
    rotates ⟨s, .call (.controller call), (s.attend turn.mishap (.controller call)).1,
        (s.attend turn.mishap (.controller call)).2⟩ =
      ((s.attend turn.mishap (.controller call)).1.isOk && eventOf call == some .rotation) := by
  cases call with
  | setPassword ownerUuid username password =>
    rcases h.cases with hfaultless | ⟨failure, hbefore⟩
    · rw [attend_of_faultless hfaultless]
      simp [rotates, Action.controllerCall?, Action.call?, eventOf, perform]
    · have hkept := perform_ne (.setPassword ownerUuid username password) s.controller
      rw [hbefore]
      simp [rotates, Action.controllerCall?, Action.call?, attend, hkept, Except.isOk, Except.toBool]
  | createSvm _ | createInterface _ | svmByName _ | svm _ | nodes | aggregates | peerGroups | createAccount _
  | account _ _ => simp [rotates, Action.controllerCall?, Action.call?, eventOf]

/-- What a call that fails leaves behind. -/
theorem attend_of_error {turn : Turn} (h : turn.Honest) {call : ControllerCall} {s : Systems} {failure : Failure}
    (herror : (s.attend turn.mishap (.controller call)).1 = .error failure) :
    ∃ tally, (s.attend turn.mishap (.controller call)).2.controller = { s.controller with tally } := by
  rcases h.cases with hfaultless | ⟨failure, hbefore⟩
  · rw [attend_of_faultless hfaultless] at herror ⊢
    exact ⟨_, MemoryController.perform_of_error herror⟩
  · rw [hbefore]
    exact ⟨s.controller.tally, rfl⟩

/-- A call keeps the books. -/
theorem keeps_call (hhonest : ∀ n, (run.course n).Honest) (call : ControllerCall) :
    Keeps engine run [] (Engine.controller call).run (dueAfter call) := by
  intro s
  have hrotates := rotates_call (hhonest s.turn) call s
  generalize hmove : (⟨s, .call (.controller call), (s.attend (run.course s.turn).mishap (.controller call)).1,
    (s.attend (run.course s.turn).mishap (.controller call)).2⟩ : Program.Move actions Systems) = move at hrotates
  have htrace : trace run (Engine.controller call).run s = [move] := by rw [← hmove]; rfl
  have hends : ends run (Engine.controller call).run s = s.attend (run.course s.turn).mishap (.controller call) := rfl
  have hwaits : waits engine run [move] = [] := by rw [← hmove]; rfl
  have hevents : events [move] = [] := by rw [← hmove]; rfl
  rw [htrace, hwaits, hends]
  cases hanswer : (s.attend (run.course s.turn).mishap (.controller call)).1 with
  | ok value =>
    obtain ⟨hok, hafter⟩ := attend_of_ok hanswer
    obtain ⟨⟨accepted, horders, hsvms⟩, added, hinterfaces, hroles⟩ := made_of_ok hok
    rw [hanswer] at hrotates
    rw [hafter]
    exact {
      provisions := fun success => by
        rw [hevents]
        cases call <;> rfl
      svms := ⟨accepted, horders, by rw [hevents]; exact hsvms.trans (Nat.zero_add _).symm⟩
      waits := by
        rw [hevents]
        cases call <;> rfl
      interfaces := ⟨added, hinterfaces, fun role => by rw [hevents]; exact (hroles role).trans (Nat.zero_add _).symm⟩
      rotations := by
        rw [hevents, List.countP_singleton, hrotates]
        cases call <;> rfl }
  | error failure =>
    obtain ⟨tally, hafter⟩ := attend_of_error (hhonest s.turn) hanswer
    rw [hanswer] at hrotates
    refine .idle (by rw [hafter]) (by rw [hafter]) ?_ (by rw [hevents]; rfl)
    rw [List.countP_singleton, hrotates]
    rfl

/-- A call, followed by an attempt that counts the event of the call. -/
theorem balanced_call_then (hhonest : ∀ n, (run.course n).Honest) (call : ControllerCall)
    {next : call.Answer → Attempt β}
    (hnext : ∀ value, Keeps engine run (eventOf call).toList (next value).run fun _ => []) :
    Balanced engine run (Engine.controller call >>= next).run :=
  (keeps_call hhonest call).attempt hnext fun _ => rfl

/-- A call of a step that is named, followed by an attempt that counts the event of the call. -/
theorem balanced_step_then (hhonest : ∀ n, (run.course n).Honest) (call : ControllerCall)
    {project operation : String} {next : call.Answer → Attempt β}
    (hnext : ∀ value, Keeps engine run (eventOf call).toList (next value).run fun _ => []) :
    Balanced engine run (Engine.within project operation (Engine.controller call) >>= next).run := by
  have hstep : Keeps engine run [] (Engine.within project operation (Engine.controller call)).run
      (dueAfter call) :=
    (keeps_call hhonest call).bind fun result => .done (by cases result <;> rfl)
  exact hstep.attempt hnext fun _ => rfl

/-! ### The wait -/

/-- The event that is owed after a wait. -/
def dueWait : Polled Svm → List Event
  | .ready _ attempts | .exhausted attempts _ => [.readiness attempts]
  | .failed _ | .cancelled => []

/-- The step with which a wait starts. -/
def firstMove (run : Attempted) (s : Systems) : Program.Move actions Systems :=
  ⟨s, .cancelled, (run.course s.turn).cancelled, s.tick⟩

/-- What is left of a wait after its first step. -/
def looking (engine : Settings.Engine) (run : Attempted) (s : Systems) : Engine (Polled Svm) :=
  let policy := RetryPolicy.ofSettings engine.readiness
  if (run.course s.turn).cancelled then return .cancelled
  else RetryPolicy.lookAgain (engineTimer.pause policy.maxDelay) (lookAtSvm run.request.projectId)
    policy.pauses 0

theorem asks_looking_quiet (s : Systems) : Program.Asks (S := actions) Quiet (looking engine run s) := by
  unfold looking
  simp only
  split
  · trivial
  · have hquiet (action : Action) (h : isQuiet action = true) : Quiet action := h
    exact asks_lookAgain (hquiet _ rfl) (fun _ => hquiet _ rfl) (hquiet _ rfl) _ _

theorem trace_wait (s : Systems) :
    trace run (wait engine run) s = [firstMove run s] ++ trace run (looking engine run s) s.tick := rfl

theorem ends_wait (s : Systems) :
    ends run (wait engine run) s = ends run (looking engine run s) s.tick := rfl

/-- A wait is found by its first step. -/
theorem waits_firstMove (s : Systems) :
    waits engine run [firstMove run s] = [(ends run (wait engine run) s).1] := rfl

/-- The end of a wait is owed from its first step on. -/
theorem books_firstMove (run : Attempted) (s : Systems) (polled : Polled Svm) :
    Books [] s [firstMove run s] [polled] s.tick (dueWait polled) where
  provisions success := by cases polled <;> rfl
  svms := ⟨[], (List.append_nil _).symm, by cases polled <;> rfl⟩
  waits := by cases polled <;> rfl
  interfaces := ⟨[], (List.append_nil _).symm, fun role => by cases polled <;> rfl⟩
  rotations := by cases polled <;> rfl

theorem keeps_wait : Keeps engine run [] (wait engine run) dueWait := by
  intro s
  -- how the wait ends is known only later, but its end depends on nothing but the state now
  generalize hpolled : (ends run (wait engine run) s).1 = polled
  rw [trace_wait, waits_append, waits_firstMove, hpolled, ends_wait]
  exact (books_firstMove run s polled).trans (keeps_of_asks (asks_looking_quiet s) (dueWait polled) s.tick)

/-- The result of a wait tells what is owed, and it is counted. -/
theorem keeps_awaitSvm : Keeps engine run []
    (awaitSvm (.ofSettings engine.readiness) run.request.projectId).run fun _ => [] := by
  unfold awaitSvm
  rw [ExceptT.run_mk]
  refine keeps_wait.bind fun polled => ?_
  cases polled with
  | ready svm attempts => exact (keeps_count _).bind fun _ => .done rfl
  | exhausted attempts condition => exact (keeps_count _).bind fun _ => .done rfl
  | failed failure => exact .done rfl
  | cancelled => exact .done rfl

/-! ### The parts of a run -/

section Parts

variable (hhonest : ∀ n, (run.course n).Honest)
include hhonest

theorem balanced_selectNodes : Balanced engine run selectNodes.run := by
  unfold selectNodes
  refine balanced_call_then hhonest .nodes fun nodes => ?_
  simp only
  split <;> exact Keeps.done rfl

theorem balanced_orderSvm (project : String) : Balanced engine run (orderSvm project).run := by
  unfold orderSvm
  refine balanced_step_then hhonest .aggregates fun aggregates => ?_
  refine balanced_step_then hhonest (.createSvm _) fun _ => ?_
  exact (keeps_count .svmCreated).bind fun _ => .done rfl

theorem balanced_ensureSvm : Balanced engine run (ensureSvm engine run.request.projectId).run := by
  unfold ensureSvm
  refine balanced_step_then hhonest (.svmByName _) fun found => ?_
  match found with
  | some svm => exact Keeps.done rfl
  | none =>
    refine (balanced_orderSvm hhonest _).attempt fun _ => ?_
    exact (Balanced.within keeps_awaitSvm).attempt fun _ => Keeps.done rfl

theorem balanced_createInterface (interface : Interface) :
    Balanced engine run (createInterface interface).run := by
  unfold createInterface
  rw [ExceptT.run_mk]
  refine (keeps_call hhonest (.createInterface interface)).bind fun result => ?_
  match result with
  | .ok () => exact (keeps_count (.interfaceCreated interface.role)).bind fun _ => .done rfl
  | .error failure =>
    simp only
    split <;> exact Keeps.done rfl

theorem balanced_createInterfaces (interfaces : List Interface) :
    Balanced engine run (createInterfaces interfaces).run := by
  induction interfaces with
  | nil => exact Keeps.done rfl
  | cons interface rest ih =>
    unfold createInterfaces
    exact (balanced_createInterface hhonest interface).attempt fun _ => ih

theorem balanced_allocate (request : EndpointRequest) (nodes : List Node) :
    Balanced engine run (allocate engine request nodes).run := by
  unfold allocate probeAddressing
  refine Balanced.attempt (balanced_call_then hhonest .peerGroups fun _ => Keeps.done rfl) fun mode => ?_
  refine Balanced.check fun interfaces => ?_
  exact (balanced_createInterfaces hhonest interfaces).attempt fun _ => Keeps.done rfl

theorem balanced_rotatePassword (svmName ownerUuid : String) :
    Balanced engine run (rotatePassword engine svmName ownerUuid).run := by
  unfold rotatePassword
  refine balanced_call_then hhonest (.account _ _) fun found => ?_
  match found with
  | none => exact Keeps.done rfl
  | some _ =>
    simp only
    split
    · exact Keeps.done rfl
    · refine Keeps.lift balanced_password fun fresh => ?_
      refine balanced_call_then hhonest (.setPassword _ _ _) fun _ => ?_
      exact Keeps.lift (keeps_count .rotation) fun _ => .done rfl

theorem balanced_ensureAccount (svmName ownerUuid : String) :
    Balanced engine run (ensureAccount engine svmName ownerUuid).run := by
  unfold ensureAccount createAccount
  refine Balanced.attempt ?_ fun found => ?_
  · refine Keeps.bind balanced_password fun fresh => ?_
    refine (keeps_call hhonest (.createAccount _)).bind fun result => ?_
    match result with
    | .ok () => exact .done rfl
    | .error failure =>
      simp only
      split <;> exact .done rfl
  · match found with
    | some _ => exact Keeps.done rfl
    | none => exact (balanced_rotatePassword hhonest _ _).attempt fun _ => Keeps.done rfl

theorem balanced_reconcile (project : String) (svm : Svm) :
    Balanced engine run (reconcile engine project svm).run := by
  unfold reconcile
  refine (balanced_secrets _).attempt fun existing => ?_
  simp only
  split
  · exact Keeps.done rfl
  · refine Balanced.check fun uuid => ?_
    refine (balanced_ensureAccount hhonest _ _).attempt fun _ => ?_
    refine Balanced.attempt ?_ fun _ => Keeps.done rfl
    unfold writeSecret
    split <;> exact balanced_secrets _

/-- The steps of a run leave nothing owed, wherever they end. -/
theorem balanced_steps : Balanced engine run (run.request.steps engine).run := by
  unfold Request.steps
  refine Balanced.check fun _ => ?_
  refine (balanced_selectNodes hhonest).within.attempt fun nodes => ?_
  refine (balanced_ensureSvm hhonest).attempt fun machine => ?_
  refine Balanced.attempt (.within ?_) fun svmUuid => ?_
  · cases requireUuid machine.1 <;> exact Keeps.done rfl
  refine (balanced_allocate hhonest _ nodes).within.attempt fun interfaces => ?_
  exact (balanced_reconcile hhonest _ machine.1).within.attempt fun credentials => Keeps.done rfl

end Parts

/-! ### Runs one after another -/

/-- A run owes only that its end is counted, which it does. -/
theorem books_run (hhonest : ∀ n, (run.course n).Honest) (s : Systems) :
    Books [.provision (run.result engine s).isOk] s (run.moves engine s)
      (waits engine run (run.moves engine s)) (run.final engine s) [] := by
  let steps := (run.request.steps engine).run
  let count (result : Except Failure Outcome) : Engine (Except Failure Outcome) := do
    Engine.count (.provision result.isOk)
    return result
  have hcount (result : Except Failure Outcome) :
      Keeps engine run [.provision result.isOk] (count result) fun _ => [] :=
    (keeps_count _).bind fun _ => .done rfl
  have hmoves : run.moves engine s = trace run (steps >>= count) s := rfl
  have hfinal : run.final engine s = (ends run (steps >>= count) s).2 := rfl
  have hresult : run.result engine s = (ends run (steps >>= count) s).1 := rfl
  rw [hmoves, hfinal, hresult, trace_bind, waits_append, ends_bind]
  exact (balanced_steps hhonest s).append (hcount (ends run steps s).1 (ends run steps s).2)

/-- Runs owe that their ends are counted, and they are. -/
theorem books_history (engine : Settings.Engine) {runs : List Attempted}
    (hhonest : ∀ run ∈ runs, ∀ n, (run.course n).Honest) (s : Systems) :
    let (past, final) := history Systems.handle engine runs s
    Books (past.map fun made => .provision made.result.isOk) s (past.flatMap (·.moves))
      (past.flatMap fun made => waits engine made.run made.moves) final [] := by
  induction runs generalizing s with
  | nil => exact .refl [] s
  | cons run rest ih =>
    have hrest := ih (fun other hother => hhonest other (List.mem_cons_of_mem _ hother)) (run.final engine s)
    exact (books_run (hhonest run List.mem_cons_self) s).append hrest

/-- What the counters say after runs, and what the runs have done. -/
structure Accounts (engine : Settings.Engine) (s : Systems) (past : List (Past Systems)) (final : Systems)
    (m : Metrics) : Prop where
  succeeded : m.provisionCount true = past.countP (·.result.isOk)
  failed : m.provisionCount false = past.countP (!·.result.isOk)
  /-- Machines, by the orders that the controller has accepted. -/
  svms : ∃ accepted, final.controller.orders = s.controller.orders ++ accepted ∧
    m.svmsCreated = accepted.length
  /-- Interfaces, by those that the controller has got. -/
  interfaces : ∃ added, final.controller.interfaces = s.controller.interfaces ++ added ∧
    ∀ role, m.interfaceCount role = added.countP (·.role == role)
  rotations : m.rotations = (past.flatMap (·.moves)).countP rotates
  waits : m.readinessAttempts.length =
    (past.flatMap fun made => waits engine made.run made.moves).countP Polled.isSample

/-- **The metrics account for what was done.**  Whatever befalls runs one after another, as long as calls that
    fail have no effect, fresh metrics count the runs that succeeded and those that failed, the orders that were
    accepted, the interfaces that were added, the passwords that were replaced, and the waits that have come to
    know whether the machine is ready. -/
theorem accounts_of_history (engine : Settings.Engine) {runs : List Attempted}
    (hhonest : ∀ run ∈ runs, ∀ n, (run.course n).Honest) (s : Systems) :
    let (past, final) := history Systems.handle engine runs s
    Accounts engine s past final (counted past) := by
  have hbooks := books_history engine hhonest s
  generalize hhistory : history Systems.handle engine runs s = both at hbooks ⊢
  obtain ⟨past, final⟩ := both
  simp only at hbooks ⊢
  have hcounts : (counted past).Counts (events (past.flatMap (·.moves))) := Metrics.counts_foldl_record _
  -- the events that were owed are the ends of the runs, and no event of another kind
  have hended (success : Bool) : (past.map fun made => Event.provision made.result.isOk).count
      (.provision success) = past.countP (·.result.isOk == success) := by
    rw [List.count, List.countP_map]
    exact List.countP_congr fun made _ => by simp
  have hothers (kind : Event → Bool) (hkind : ∀ success, kind (.provision success) = false) :
      (past.map fun made => Event.provision made.result.isOk).countP kind = 0 := by
    rw [List.countP_map]
    exact List.countP_eq_zero.2 fun made _ => by simp [hkind]
  have hprovisions (success : Bool) :
      (counted past).provisionCount success = past.countP (·.result.isOk == success) := by
    rw [hcounts.provisions, ← hended, ← hbooks.provisions, List.append_nil]
  obtain ⟨accepted, horders, hsvms⟩ := hbooks.svms
  obtain ⟨added, hinterfaces, hroles⟩ := hbooks.interfaces
  have hwaits := hbooks.waits
  have hrotations := hbooks.rotations
  rw [List.append_nil] at hsvms hwaits hrotations
  exact {
    succeeded := by simpa using hprovisions true
    failed := by simpa using hprovisions false
    svms := by
      refine ⟨accepted, horders, ?_⟩
      rw [hcounts.svms, hsvms, List.count, hothers _ fun _ => rfl, Nat.zero_add]
    interfaces := by
      refine ⟨added, hinterfaces, fun role => ?_⟩
      have hrole := hroles role
      rw [List.append_nil] at hrole
      rw [hcounts.interfaces, hrole, List.count, hothers _ fun _ => rfl, Nat.zero_add]
    rotations := by
      rw [hcounts.rotations, hrotations, List.count, hothers _ fun _ => rfl, Nat.zero_add]
    waits := by
      rw [hcounts.waits, hwaits, hothers _ fun _ => rfl, Nat.zero_add] }

/-- A run that cannot write its secret, the same run again, and one that is cancelled before it looks. -/
def mixedRuns : List Attempted :=
  [{ smoothRun with course := fun n => ⟨if n = 17 then some (.before default) else none, false, "lost"⟩ },
    smoothRun, ⟨{ smoothRun.request with projectId := "tenant-b" }, fun _ => ⟨none, true, ""⟩⟩]

theorem accounts_of_mixedRuns :
    let (past, final) := history Systems.handle default mixedRuns twoNodes
    (∀ run ∈ mixedRuns, ∀ n, (run.course n).Honest) ∧ (counted past).readAll.1 = [1, 2, 2, 1, 1, 1] ∧
      Accounts default twoNodes past final (counted past) := by
  have hhonest : ∀ run ∈ mixedRuns, ∀ n, (run.course n).Honest := by
    simp only [mixedRuns, List.forall_mem_cons]
    refine ⟨fun n failure => ?_, fun n failure => by rintro ⟨⟩, fun n failure => by rintro ⟨⟩, by simp⟩
    simp only
    split <;> rintro ⟨⟩
  exact ⟨hhonest, by decide +kernel, accounts_of_history default hhonest twoNodes⟩

end Provision

end TenantStorage
