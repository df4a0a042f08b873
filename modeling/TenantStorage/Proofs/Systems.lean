import TenantStorage.Memory.Controller
import TenantStorage.Memory.Secrets
import TenantStorage.Proofs.Password
import TenantStorage.Proofs.Program

namespace TenantStorage

/-!
# The two systems in memory, and what may befall a run

The surroundings in which the theorems place the engine: the controller and the store of secrets, both in
memory, and for every action a `Turn` that says what befalls it.  A call may fail before it takes effect or
after it, the cancellation may arrive at any pause or watched call, and passwords come from anywhere.

* `Systems` — both systems, and the number of actions so far.
* `Mishap`, `Turn`, `Course` — what befalls a call, an action, and all actions.
* `Systems.answer` — the answer to an action, and the systems after it.
* `Systems.run`, `Systems.moves` — a run of the engine under a course, and its steps.
* `Systems.conduct` — the same as a relation, for turns of which only a property is known.
* `ensures_call`, `ensures_watch`, `ensures_password`, `ensures_count` — the rules of `Program.Ensures` for the
  actions of the engine.
-/

/-- The storage controller and the store of secrets, both in memory. -/
structure Systems where
  controller : MemoryController
  secrets : MemorySecrets
  /-- How many actions there have been. -/
  turn : Nat
deriving DecidableEq

/-- What may go wrong with a call. -/
inductive Mishap where
  /-- The call fails and has no effect. -/
  | before (failure : Failure)
  /-- The call takes effect, and then a failure is reported. -/
  | after (failure : Failure)
deriving DecidableEq

/-- What befalls one action. -/
structure Turn where
  /-- What goes wrong with a call. -/
  mishap : Option Mishap
  /-- Whether the cancellation has arrived. -/
  cancelled : Bool
  /-- The password that is handed out. -/
  password : String
deriving DecidableEq

/-- What befalls each action, by its number from zero. -/
abbrev Course := Nat → Turn

/-- Nothing goes wrong with a call. -/
def Turn.Faultless (turn : Turn) : Prop := turn.mishap = none

/-- Nothing goes wrong, the cancellation stays away, and the password that is handed out was generated. -/
structure Turn.Smooth (turn : Turn) : Prop where
  faultless : turn.Faultless
  cancelled : turn.cancelled = false
  generated : ∃ words left, Password.generate words = some (turn.password, left)

/-- A password that was generated is not empty. -/
theorem Turn.Smooth.password_ne_empty {turn : Turn} (h : turn.Smooth) : turn.password ≠ "" := by
  obtain ⟨words, left, hgenerate⟩ := h.generated
  exact Password.ne_empty_of_generate hgenerate

/-- Whatever goes wrong with a call, it is not said that something exists already, and the password that is
    handed out is not empty. -/
structure Turn.Truthful (turn : Turn) : Prop where
  mishap : ∀ failure, turn.mishap = some (.before failure) ∨ turn.mishap = some (.after failure) →
    failure.isAlreadyExists = false
  password : turn.password ≠ ""

/-- The call that an action makes. -/
def Action.call? : Action → Option Call
  | call c => some c
  | watch c => some c
  | _ => none

namespace Systems

/-! ### Answers -/

/-- The answer to a call with which nothing goes wrong. -/
def perform : (call : Call) → Systems → Except Failure call.Answer × Systems
  | .controller call, s =>
    let (result, controller) := s.controller.perform call
    (result, { s with controller })
  | .secrets call, s =>
    let (result, secrets) := s.secrets.perform call
    (result, { s with secrets })

/-- The systems when one more action is over. -/
def tick (s : Systems) : Systems := { s with turn := s.turn + 1 }

/-- The answer to a call under a mishap. -/
def attend (mishap : Option Mishap) (call : Call) (s : Systems) :
    Except Failure call.Answer × Systems :=
  match mishap with
  | none => ((s.perform call).1, (s.perform call).2.tick)
  | some (.before failure) => (.error failure, s.tick)
  | some (.after failure) => (.error failure, (s.perform call).2.tick)

/-- The answer to an action that a turn befalls. -/
def answer (turn : Turn) : (action : Action) → Systems → action.Answer × Systems
  | .call call, s => s.attend turn.mishap call
  | .watch call, s =>
    if turn.cancelled then (none, s.tick)
    else
      let (result, s) := s.attend turn.mishap call
      (some result, s)
  | .pause _, s => (!turn.cancelled, s.tick)
  | .cancelled, s => (turn.cancelled, s.tick)
  | .password, s => (turn.password, s.tick)
  | .count _, s => ((), s.tick)

/-- Answers each action as its turn in a course says. -/
def handle (course : Course) (action : Action) (s : Systems) : action.Answer × Systems :=
  s.answer (course s.turn) action

/-- A run of the engine. -/
def run {α : Type} (course : Course) (attempt : Attempt α) (s : Systems) : Except Failure α × Systems :=
  Program.run (S := actions) (handle course) attempt.run s

/-- The steps of a run of the engine. -/
def moves {α : Type} (course : Course) (attempt : Attempt α) (s : Systems) :
    List (Program.Move actions Systems) :=
  Program.moves (S := actions) (handle course) attempt.run s

/-! ### Effects -/

@[simp] theorem tick_controller (s : Systems) : s.tick.controller = s.controller := rfl

@[simp] theorem tick_secrets (s : Systems) : s.tick.secrets = s.secrets := rfl

/-- A call either leaves both systems alone or has its effect. -/
theorem attend_effect (mishap : Option Mishap) (call : Call) (s : Systems) :
    (s.attend mishap call).2 = s.tick ∨ (s.attend mishap call).2 = (s.perform call).2.tick := by
  match mishap with
  | none => exact .inr rfl
  | some (.before _) => exact .inl rfl
  | some (.after _) => exact .inr rfl

/-- A call that succeeds met with no mishap. -/
theorem attend_of_ok {mishap : Option Mishap} {call : Call} {s : Systems} {value : call.Answer}
    (h : (s.attend mishap call).1 = .ok value) :
    (s.perform call).1 = .ok value ∧ (s.attend mishap call).2 = (s.perform call).2.tick := by
  match mishap, h with
  | none, h => exact ⟨h, rfl⟩

/-- When it is said in truth that something exists already, the system has said so. -/
theorem attend_of_alreadyExists {turn : Turn} (h : turn.Truthful) {call : Call} {s : Systems} {failure : Failure}
    (hanswer : (s.attend turn.mishap call).1 = .error failure) (hexists : failure.isAlreadyExists = true) :
    (s.perform call).1 = .error failure ∧ (s.attend turn.mishap call).2 = (s.perform call).2.tick := by
  cases hmishap : turn.mishap with
  | none =>
    rw [hmishap] at hanswer
    exact ⟨hanswer, rfl⟩
  | some mishap =>
    rw [hmishap] at hanswer
    cases mishap with
    | before failure' =>
      cases hanswer
      exact absurd hexists (by simp [h.mishap failure (.inl hmishap)])
    | after failure' =>
      cases hanswer
      exact absurd hexists (by simp [h.mishap failure (.inr hmishap)])

/-- A call with which nothing goes wrong. -/
theorem attend_of_faultless {turn : Turn} (h : turn.Faultless) (call : Call) (s : Systems) :
    s.attend turn.mishap call = ((s.perform call).1, (s.perform call).2.tick) := by
  rw [h]
  rfl

/-- The store of secrets does not notice a call to the controller. -/
@[simp] theorem attend_controller_secrets (mishap : Option Mishap) (call : ControllerCall)
    (s : Systems) : (s.attend mishap (.controller call)).2.secrets = s.secrets := by
  rcases attend_effect mishap (.controller call) s with h | h <;> rw [h] <;> rfl

/-- The controller does not notice a call to the store of secrets. -/
@[simp] theorem attend_secrets_controller (mishap : Option Mishap) (call : SecretCall)
    (s : Systems) : (s.attend mishap (.secrets call)).2.controller = s.controller := by
  rcases attend_effect mishap (.secrets call) s with h | h <;> rw [h] <;> rfl

/-- An action leaves both systems alone unless it makes a call. -/
theorem answer_effect (turn : Turn) (action : Action) (s : Systems) :
    (s.answer turn action).2 = s.tick ∨
      ∃ call, action.call? = some call ∧ (s.answer turn action).2 = (s.perform call).2.tick := by
  cases action with
  | call c =>
    rcases attend_effect turn.mishap c s with h | h
    · exact .inl h
    · exact .inr ⟨c, rfl, h⟩
  | watch c =>
    -- a watched call that is cut short was not made at all
    by_cases hcancelled : turn.cancelled = true
    · exact .inl (by simp [answer, hcancelled])
    · have hanswer : (s.answer turn (.watch c)).2 = (s.attend turn.mishap c).2 := by
        simp [answer, hcancelled]
      rcases attend_effect turn.mishap c s with h | h
      · exact .inl (hanswer.trans h)
      · exact .inr ⟨c, rfl, hanswer.trans h⟩
  | pause _ | cancelled | password | count _ => exact .inl rfl

/-- Every action takes one turn. -/
theorem answer_turn (turn : Turn) (action : Action) (s : Systems) :
    (s.answer turn action).2.turn = s.turn + 1 := by
  rcases answer_effect turn action s with h | ⟨call, -, h⟩
  · rw [h]
    rfl
  · rw [h]
    cases call <;> rfl

/-! ### Turns of which a property is known -/

variable {α : Type} {T : Turn → Prop}

/-- What an action may come to, if its turn has the property `T`. -/
def conduct (T : Turn → Prop) : Program.Conduct actions Systems :=
  fun action s answer s' => ∃ turn, T turn ∧ (answer, s') = s.answer turn action

theorem handle_conduct {course : Course} (h : ∀ n, T (course n)) (action : Action) (s : Systems) :
    conduct T action s (handle course action s).1 (handle course action s).2 :=
  ⟨course s.turn, h s.turn, rfl⟩

/-- What is ensured for all turns with a property holds of a run whose turns have it. -/
theorem run_of_ensures {guarantee : Program.Conduct actions Systems}
    {post : Except Failure α → Systems → Prop} {attempt : Attempt α} {s : Systems}
    (h : Program.Ensures (conduct T) guarantee post attempt.run s) (course : Course) (hT : ∀ n, T (course n)) :
    post (s.run course attempt).1 (s.run course attempt).2 :=
  Program.Ensures.run h (handle_conduct hT)

/-- What is ensured of every step for all turns with a property holds of the steps of a run whose turns
    have it, and each step is what a turn with the property makes of the action. -/
theorem moves_of_ensures {guarantee : Program.Conduct actions Systems}
    {post : Except Failure α → Systems → Prop} {attempt : Attempt α} {s : Systems}
    (h : Program.Ensures (conduct T) guarantee post attempt.run s) (course : Course) (hT : ∀ n, T (course n)) :
    ∀ move ∈ s.moves course attempt, conduct T move.op move.before move.answer move.after ∧
      guarantee move.op move.before move.answer move.after :=
  Program.Ensures.moves h (handle_conduct hT)

/-! ### Rules for the actions of the engine -/

variable {guarantee : Program.Conduct actions Systems}

/-- The rule for a call. -/
theorem ensures_call {c : Call} {post : Except Failure c.Answer → Systems → Prop} {s : Systems}
    (h : ∀ turn, T turn → guarantee (.call c) s (s.attend turn.mishap c).1 (s.attend turn.mishap c).2 ∧
      post (s.attend turn.mishap c).1 (s.attend turn.mishap c).2) :
    Program.Ensures (conduct T) guarantee post (Engine.call c).run s := by
  rintro result s' ⟨turn, hturn, hpair⟩
  obtain ⟨rfl, rfl⟩ := Prod.mk.inj hpair
  exact h turn hturn

/-- A call that the cancellation may cut short was cut short, or it was attended to. -/
theorem watch_cases {c : Call} {s s' : Systems} {answer : Option (Except Failure c.Answer)}
    (h : conduct T (.watch c) s answer s') :
    answer = none ∧ s' = s.tick ∧ (∃ turn, T turn ∧ turn.cancelled = true) ∨
      ∃ turn, T turn ∧ answer = some (s.attend turn.mishap c).1 ∧ s' = (s.attend turn.mishap c).2 := by
  obtain ⟨turn, hturn, hpair⟩ := h
  rw [Systems.answer] at hpair
  split at hpair
  · rename_i hcancelled
    obtain ⟨rfl, rfl⟩ := Prod.mk.inj hpair
    exact .inl ⟨rfl, rfl, turn, hturn, hcancelled⟩
  · obtain ⟨rfl, rfl⟩ := Prod.mk.inj hpair
    exact .inr ⟨turn, hturn, rfl, rfl⟩

/-- The rule for a call that the cancellation may cut short, under any surroundings. -/
theorem ensures_watch {surroundings : Program.Conduct actions Systems} {c : Call}
    {post : Option (Except Failure c.Answer) → Systems → Prop} {s : Systems}
    (h : ∀ answer s', surroundings (.watch c) s answer s' →
      guarantee (.watch c) s answer s' ∧ post answer s') :
    Program.Ensures surroundings guarantee post (Engine.watch c) s :=
  h

/-- The rule for a fresh password. -/
theorem ensures_password {post : String → Systems → Prop} {s : Systems}
    (h : ∀ turn, T turn → guarantee .password s turn.password s.tick ∧ post turn.password s.tick) :
    Program.Ensures (conduct T) guarantee post Engine.password s := by
  rintro fresh s' ⟨turn, hturn, hpair⟩
  obtain ⟨rfl, rfl⟩ := Prod.mk.inj hpair
  exact h turn hturn

/-- The rule for counting. -/
theorem ensures_count {event : Event} {post : Unit → Systems → Prop} {s : Systems}
    (h : guarantee (.count event) s () s.tick ∧ post () s.tick) :
    Program.Ensures (conduct T) guarantee post (Engine.count event) s := by
  rintro ⟨⟩ s' ⟨turn, hturn, hpair⟩
  obtain ⟨-, rfl⟩ := Prod.mk.inj hpair
  exact h

end Systems

end TenantStorage
