import TenantStorage.Metrics.Basic
import TenantStorage.Proofs.Provision.Steps

namespace TenantStorage

/-!
# Histories of runs

Runs one after another under any handler, each under a course of its own: what each of them returned, the steps
that it took, and what was counted.

* `Past`, `history` — the runs and the state in which they leave the surroundings.
* `events`, `counted` — what was counted, and the metrics that come of it.
* `Metrics.Counts` — what the counters say of events; `counts_foldl_record` — fresh metrics say the truth.
-/

/-- The event that an action counts. -/
def Action.event? : Action → Option Event
  | count event => some event
  | _ => none

namespace Provision

variable {σ : Type}

/-- A run that is over. -/
structure Past (σ : Type) where
  run : Attempted
  result : Except Failure Outcome
  moves : List (Program.Move actions σ)

/-- Runs one after another, and the state at the end. -/
def history (handle : Course → (action : Action) → σ → action.Answer × σ) (engine : Settings.Engine) :
    List Attempted → σ → List (Past σ) × σ
  | [], s => ([], s)
  | run :: rest, s =>
    let program := (run.request.provision engine).run
    let ended := Program.run (S := actions) (handle run.course) program s
    let later := history handle engine rest ended.2
    (⟨run, ended.1, Program.moves (S := actions) (handle run.course) program s⟩ :: later.1, later.2)

/-! ### What is counted -/

/-- The events that are counted in steps. -/
def events (moves : List (Program.Move actions σ)) : List Event :=
  moves.filterMap fun move => Action.event? move.op

theorem events_append (moves moves' : List (Program.Move actions σ)) :
    events (moves ++ moves') = events moves ++ events moves' :=
  List.filterMap_append

/-- Metrics that were fresh before the runs. -/
def counted (past : List (Past σ)) : Metrics :=
  (events (past.flatMap (·.moves))).foldl Metrics.record .empty

end Provision

/-! ### Counters -/

namespace Event

/-- Whether the end of a wait is counted. -/
def isReadiness : Event → Bool
  | readiness _ => true
  | _ => false

end Event

namespace Metrics

/-- A series that is counted goes up by one, and no other does. -/
theorem Series.value_increment (series : Series) (label other : String) :
    (series.increment label).value other = series.value other + if label = other then 1 else 0 := by
  rw [Series.value, Series.increment]
  split
  · rename_i h
    subst h
    rw [SortedMap.find?_insert_self]
    rfl
  · rename_i h
    rw [SortedMap.find?_insert_of_ne _ (Ne.symm h)]
    rfl

theorem outcomeLabel_inj {success success' : Bool} :
    outcomeLabel success = outcomeLabel success' ↔ success = success' := by
  revert success success'
  decide

theorem roleText_inj {role role' : Interface.Role} : role.text = role'.text ↔ role = role' := by
  cases role <;> cases role' <;> decide

theorem provisionCount_record (success : Bool) (m : Metrics) (event : Event) :
    (m.record event).provisionCount success =
      m.provisionCount success + if event == .provision success then 1 else 0 := by
  cases event with
  | provision outcome => simp [record, provisionCount, Series.value_increment, outcomeLabel_inj]
  | svmCreated | readiness _ | interfaceCreated _ | rotation => rfl

theorem interfaceCount_record (role : Interface.Role) (m : Metrics) (event : Event) :
    (m.record event).interfaceCount role =
      m.interfaceCount role + if event == .interfaceCreated role then 1 else 0 := by
  cases event with
  | interfaceCreated role => simp [record, interfaceCount, Series.value_increment, roleText_inj]
  | provision _ | svmCreated | readiness _ | rotation => rfl

/-- A counter that goes up by one for each event of a kind counts the events of this kind. -/
theorem counter_foldl_record (counter : Metrics → Nat) (kind : Event → Bool)
    (hrecord : ∀ m event, counter (m.record event) = counter m + if kind event then 1 else 0)
    (events : List Event) (m : Metrics) :
    counter (events.foldl record m) = counter m + events.countP kind := by
  induction events generalizing m with
  | nil => rfl
  | cons event rest ih =>
    rw [List.foldl_cons, ih, hrecord, List.countP_cons]
    omega

/-- What the counters say when these events were counted and no others. -/
structure Counts (m : Metrics) (events : List Event) : Prop where
  provisions : ∀ success, m.provisionCount success = events.count (.provision success)
  svms : m.svmsCreated = events.count .svmCreated
  waits : m.readinessAttempts.length = events.countP Event.isReadiness
  interfaces : ∀ role, m.interfaceCount role = events.count (.interfaceCreated role)
  rotations : m.rotations = events.count .rotation

/-- Fresh metrics count each event once. -/
theorem counts_foldl_record (events : List Event) : (events.foldl record .empty).Counts events := by
  have hcounter (counter : Metrics → Nat) (kind : Event → Bool)
      (hrecord : ∀ m event, counter (m.record event) = counter m + if kind event then 1 else 0)
      (hempty : counter .empty = 0) : counter (events.foldl record .empty) = events.countP kind := by
    rw [counter_foldl_record counter kind hrecord, hempty, Nat.zero_add]
  exact {
    provisions := fun success =>
      hcounter (·.provisionCount success) (· == .provision success) (provisionCount_record success) rfl
    svms := hcounter (·.svmsCreated) (· == .svmCreated) (fun _ event => by cases event <;> rfl) rfl
    waits :=
      hcounter (·.readinessAttempts.length) Event.isReadiness (fun _ event => by cases event <;> rfl) rfl
    interfaces := fun role =>
      hcounter (·.interfaceCount role) (· == .interfaceCreated role) (interfaceCount_record role) rfl
    rotations := hcounter (·.rotations) (· == .rotation) (fun _ event => by cases event <;> rfl) rfl }

end Metrics

end TenantStorage
