import TenantStorage.Proofs.Interleaving

namespace TenantStorage

/-!
# What a run says and is told

A run under surroundings of which nothing is known is described by its talk: the operations that it asked for
with the answers, the oldest first.  Of the talk of the engine only the calls to the two systems and the
cancellation matter; passwords, pauses that pass, and what is counted are left out.

* `Program.Talk` — the talks that a program can have, with the value that it ends with.
* `Program.talk_run` — a run under any handler is one of them.
* `Program.Asks` — what a program may ask for; `Asks.bind` and its like put it together from the parts.
* `Said` — a call with its reply, a call that was given up, or the news of the cancellation.
* `cons_eq_append_cons` and its like — where something stands in what is said.
* `Unbroken`, `Steady` — nothing is said after what stops a run.
* `Engine.Says` — what is said in a talk of the engine, with a rule for each way to build one.
* `Engine.conversation` — what is said in a run under a handler; `says_run` places it in a talk.
-/

namespace Program

variable {S : Signature} {α β σ : Type}

/-- The talks of a program, the oldest reply first, and the values that they lead to. -/
inductive Talk : Program S α → List (Reply S) → α → Prop where
  | done (value : α) : Talk (.done value) [] value
  | ask {op : S.Op} {resume : S.Answer op → Program S α} {talk : List (Reply S)} {value : α}
      (answer : S.Answer op) (h : Talk (resume answer) talk value) :
      Talk (.ask op resume) (⟨op, answer⟩ :: talk) value

theorem talk_done_iff {value result : α} {talk : List (Reply S)} :
    Talk (done value) talk result ↔ talk = [] ∧ result = value := by
  constructor
  · rintro ⟨⟩
    exact ⟨rfl, rfl⟩
  · rintro ⟨rfl, rfl⟩
    exact .done result

theorem talk_ask_iff {op : S.Op} {resume : S.Answer op → Program S α} {talk : List (Reply S)} {value : α} :
    Talk (ask op resume) talk value ↔
      ∃ answer rest, talk = ⟨op, answer⟩ :: rest ∧ Talk (resume answer) rest value := by
  constructor
  · intro h
    cases h with
    | ask answer hrest => exact ⟨answer, _, rfl, hrest⟩
  · rintro ⟨answer, rest, rfl, hrest⟩
    exact .ask answer hrest

theorem talk_bind_iff (p : Program S α) (next : α → Program S β) {talk : List (Reply S)} {result : β} :
    Talk (p >>= next) talk result ↔
      ∃ first rest value, talk = first ++ rest ∧ Talk p first value ∧ Talk (next value) rest result := by
  constructor
  · intro h
    -- by induction on the tree: an operation of the sum is one of the first part, until that is done
    induction p generalizing talk with
    | done value => exact ⟨[], talk, value, rfl, .done value, h⟩
    | ask op resume ih =>
      obtain ⟨answer, rest', rfl, htalk⟩ := talk_ask_iff.1 h
      obtain ⟨first, rest, value, rfl, hfirst, hrest⟩ := ih answer htalk
      exact ⟨_ :: first, rest, value, rfl, .ask answer hfirst, hrest⟩
  · rintro ⟨first, rest, value, rfl, hfirst, hrest⟩
    induction hfirst with
    | done value => exact hrest
    | ask answer _ ih => exact .ask answer (ih hrest)

/-- The talk of a run under a handler. -/
def talk (handle : (op : S.Op) → σ → S.Answer op × σ) (p : Program S α) (s : σ) : List (Reply S) :=
  (p.moves handle s).map fun move => ⟨move.op, move.answer⟩

/-- A run under any handler has one of the program's talks. -/
theorem talk_run (handle : (op : S.Op) → σ → S.Answer op × σ) (p : Program S α) (s : σ) :
    Talk p (p.talk handle s) (p.run handle s).1 := by
  induction p generalizing s with
  | done value => exact .done value
  | ask op resume ih => exact .ask (handle op s).1 (ih _ (handle op s).2)

/-- All operations that a program may ask for have a property. -/
def Asks (property : S.Op → Prop) : Program S α → Prop
  | done _ => True
  | ask op resume => property op ∧ ∀ answer, (resume answer).Asks property

/-- What a program asks for is ensured of its steps. -/
theorem Asks.ensures {property : S.Op → Prop} {p : Program S α} (h : p.Asks property)
    (conduct : Conduct S σ) (s : σ) :
    p.Ensures conduct (fun op _ _ _ => property op) (fun _ _ => True) s := by
  induction p generalizing s with
  | done => trivial
  | ask op resume ih => exact fun answer s' _ => ⟨h.1, ih answer (h.2 answer) s'⟩

theorem Asks.bind {property : S.Op → Prop} {p : Program S α} {next : α → Program S β}
    (hp : p.Asks property) (hnext : ∀ value, (next value).Asks property) : (p >>= next).Asks property := by
  induction p with
  | done value => exact hnext value
  | ask op resume ih => exact ⟨hp.1, fun answer => ih answer (hp.2 answer)⟩

theorem Asks.perform {property : S.Op → Prop} {op : S.Op} (h : property op) :
    (Program.perform op).Asks property :=
  ⟨h, fun _ => trivial⟩

/-- A sequence of attempts asks for what its parts ask for. -/
theorem Asks.attempt {S : Signature} {ε : Type} {property : S.Op → Prop} {first : ExceptT ε (Program S) α}
    {next : α → ExceptT ε (Program S) β} (hfirst : Asks property first.run)
    (hnext : ∀ value, Asks property (next value).run) : Asks property (first >>= next).run := by
  rw [ExceptT.run_bind]
  refine hfirst.bind fun result => ?_
  cases result with
  | ok value => exact hnext value
  | error failure => trivial

/-- A program that cannot fail, followed by an attempt. -/
theorem Asks.lift {S : Signature} {ε : Type} {property : S.Op → Prop} {first : Program S α}
    {next : α → ExceptT ε (Program S) β} (hfirst : first.Asks property)
    (hnext : ∀ value, Asks property (next value).run) :
    Asks property ((liftM first : ExceptT ε (Program S) α) >>= next).run := by
  have hrun : ((liftM first : ExceptT ε (Program S) α) >>= next).run =
      first >>= fun value => (next value).run := ExceptT.run_bind_lift first next
  rw [hrun]
  exact hfirst.bind hnext

/-- A check asks for nothing. -/
theorem Asks.check {S : Signature} {ε : Type} {property : S.Op → Prop} {check : Except ε α}
    {next : α → ExceptT ε (Program S) β} (hnext : ∀ value, check = .ok value → Asks property (next value).run) :
    Asks property ((liftM check : ExceptT ε (Program S) α) >>= next).run := by
  cases check with
  | ok value => exact hnext value rfl
  | error failure => trivial

end Program

/-! ### What is said -/

/-- What the engine and its surroundings say to each other. -/
inductive Said where
  /-- A call, and the reply to it. -/
  | called (call : Call) (reply : Except Failure call.Answer)
  /-- A call that was given up for the cancellation. -/
  | abandoned (call : Call)
  /-- The news that the cancellation has arrived. -/
  | cancelled

/-- What is said with a reply, if it matters. -/
def said? : Program.Reply actions → Option Said
  | ⟨.call c, reply⟩ => some (.called c reply)
  | ⟨.watch c, some reply⟩ => some (.called c reply)
  | ⟨.watch c, none⟩ => some (.abandoned c)
  | ⟨.pause _, false⟩ => some .cancelled
  | ⟨.cancelled, true⟩ => some .cancelled
  | _ => none

/-! ### Places in what is said -/

section Places

variable {said before after : List Said} {first last x : Said}

/-- What is not said first is said later. -/
theorem cons_eq_append_cons (hfirst : x ≠ first) (h : first :: said = before ++ x :: after) :
    ∃ earlier, before = first :: earlier ∧ said = earlier ++ x :: after := by
  rcases List.cons_eq_append_iff.1 h with ⟨-, hx⟩ | hlater
  · exact absurd (List.cons.inj hx).1 hfirst
  · exact hlater

/-- What is said alone stands first and last. -/
theorem singleton_eq_append_cons (h : [last] = before ++ x :: after) :
    before = [] ∧ x = last ∧ after = [] := by
  rcases List.cons_eq_append_iff.1 h with ⟨rfl, hx⟩ | ⟨earlier, -, hnil⟩
  · obtain ⟨rfl, rfl⟩ := List.cons.inj hx
    exact ⟨rfl, rfl, rfl⟩
  · exact absurd hnil.symm (List.append_ne_nil_of_right_ne_nil _ (List.cons_ne_nil _ _))

/-- What is said last, or before. -/
theorem append_singleton_eq_append_cons (h : said ++ [last] = before ++ x :: after) :
    before = said ∧ x = last ∧ after = [] ∨
      ∃ later, said = before ++ x :: later ∧ after = later ++ [last] := by
  rcases List.append_eq_append_iff.1 h with ⟨between, rfl, hlast⟩ | ⟨between, rfl, hlast⟩
  · obtain ⟨rfl, hx, rfl⟩ := singleton_eq_append_cons hlast
    exact .inl ⟨List.append_nil said, hx, rfl⟩
  · rcases List.cons_eq_append_iff.1 hlast with ⟨rfl, hx⟩ | ⟨later, rfl, hafter⟩
    · obtain ⟨rfl, rfl⟩ := List.cons.inj hx
      exact .inl ⟨(List.append_nil before).symm, rfl, rfl⟩
    · exact .inr ⟨later, rfl, hafter⟩

end Places

/-! ### What ends a talk -/

/-- Whether a run does not mind that what a call would create exists already. -/
def Call.sparesExisting : Call → Bool
  | .controller (.createInterface _) | .controller (.createAccount _) => true
  | _ => false

/-- What a run may hear and go on: success, or that an interface or an account exists already. -/
def Said.GoesOn : Said → Prop
  | called _ (.ok _) => True
  | called c (.error failure) => c.sparesExisting = true ∧ failure.isAlreadyExists = true
  | abandoned _ | cancelled => False

/-- Nothing is said after anything else. -/
def Unbroken (said : List Said) : Prop :=
  ∀ before x after, said = before ++ x :: after → after ≠ [] → x.GoesOn

theorem Unbroken.nil : Unbroken [] := by
  intro before x after h
  simp at h

theorem Unbroken.singleton (x : Said) : Unbroken [x] := by
  intro before y after h hafter
  obtain ⟨-, -, rfl⟩ := singleton_eq_append_cons h
  exact absurd rfl hafter

theorem Unbroken.cons {x : Said} {said : List Said} (hx : x.GoesOn) (h : Unbroken said) :
    Unbroken (x :: said) := by
  intro before y after hsaid hafter
  by_cases hy : y = x
  · rw [hy]
    exact hx
  · obtain ⟨rest, -, hrest⟩ := cons_eq_append_cons hy hsaid
    exact h rest y after hrest hafter

theorem Unbroken.append {said rest : List Said} (hsaid : ∀ x ∈ said, x.GoesOn) (h : Unbroken rest) :
    Unbroken (said ++ rest) := by
  induction said with
  | nil => exact h
  | cons x said ih =>
    exact .cons (hsaid x List.mem_cons_self) (ih fun y hy => hsaid y (List.mem_cons_of_mem x hy))

theorem Unbroken.of_goesOn {said : List Said} (hsaid : ∀ x ∈ said, x.GoesOn) : Unbroken said :=
  List.append_nil said ▸ .append hsaid .nil

/-- What is said before a success goes on, and what is said before a failure is unbroken. -/
structure Steady {α : Type} (said : List Said) (result : Except Failure α) : Prop where
  goesOn : ∀ value, result = .ok value → ∀ x ∈ said, x.GoesOn
  unbroken : Unbroken said

namespace Steady

variable {α : Type} {said rest : List Said} {x : Said} {result : Except Failure α}

theorem of_error {failure : Failure} (h : Unbroken said) : Steady said (.error failure : Except Failure α) :=
  ⟨by rintro _ ⟨⟩, h⟩

theorem of_goesOn {value : α} (h : ∀ x ∈ said, x.GoesOn) : Steady said (.ok value : Except Failure α) :=
  ⟨fun _ _ => h, .of_goesOn h⟩

theorem cons (hx : x.GoesOn) (h : Steady said result) : Steady (x :: said) result where
  goesOn value hok := List.forall_mem_cons.2 ⟨hx, h.goesOn value hok⟩
  unbroken := .cons hx h.unbroken

/-- After a success more may be said. -/
theorem append {value : α} (h : Steady said (.ok value)) (hrest : Unbroken rest) : Unbroken (said ++ rest) :=
  .append (h.goesOn value rfl) hrest

end Steady

namespace Engine

variable {α β : Type}

/-- What can be said in a talk of the engine, and the values that it leads to. -/
def Says (p : Engine α) (said : List Said) (value : α) : Prop :=
  ∃ talk, Program.Talk p talk value ∧ said = talk.filterMap said?

/-- What is said in a run under a handler. -/
def conversation {σ : Type} (handle : (action : Action) → σ → action.Answer × σ) (p : Engine α) (s : σ) :
    List Said :=
  (Program.talk (S := actions) handle p s).filterMap said?

/-- What is said in a run under any handler can be said in a talk. -/
theorem says_run {σ : Type} (handle : (action : Action) → σ → action.Answer × σ) (p : Engine α) (s : σ) :
    Says p (conversation handle p s) (Program.run (S := actions) handle p s).1 :=
  ⟨_, Program.talk_run (S := actions) handle p s, rfl⟩

variable {said : List Said}

/-! ### Sequences -/

@[simp] theorem says_pure_iff {value result : α} :
    Says (pure value) said result ↔ said = [] ∧ result = value := by
  simp only [Says, Program.pure_eq, Program.talk_done_iff]
  constructor
  · rintro ⟨talk, ⟨rfl, rfl⟩, rfl⟩
    exact ⟨rfl, rfl⟩
  · rintro ⟨rfl, rfl⟩
    exact ⟨[], ⟨rfl, rfl⟩, rfl⟩

theorem says_bind_iff {p : Engine α} {next : α → Engine β} {result : β} :
    Says (p >>= next) said result ↔
      ∃ first rest value, said = first ++ rest ∧ Says p first value ∧ Says (next value) rest result := by
  constructor
  · rintro ⟨talk, htalk, rfl⟩
    obtain ⟨first, rest, value, rfl, hfirst, hrest⟩ := (Program.talk_bind_iff p next).1 htalk
    exact ⟨_, _, value, List.filterMap_append, ⟨first, hfirst, rfl⟩, ⟨rest, hrest, rfl⟩⟩
  · rintro ⟨_, _, value, rfl, ⟨first, hfirst, rfl⟩, ⟨rest, hrest, rfl⟩⟩
    exact ⟨first ++ rest, (Program.talk_bind_iff p next).2 ⟨first, rest, value, rfl, hfirst, hrest⟩,
      List.filterMap_append.symm⟩

/-- A sequence of attempts: the first fails, or the second is made. -/
theorem says_attempt_iff {first : Attempt α} {next : α → Attempt β} {result : Except Failure β} :
    Says (first >>= next).run said result ↔
      (∃ failure, Says first.run said (.error failure) ∧ result = .error failure) ∨
        ∃ before rest value, said = before ++ rest ∧ Says first.run before (.ok value) ∧
          Says (next value).run rest result := by
  rw [ExceptT.run_bind, says_bind_iff]
  constructor
  · rintro ⟨before, rest, attempted, rfl, hbefore, hrest⟩
    cases attempted with
    | ok value => exact .inr ⟨before, rest, value, rfl, hbefore, hrest⟩
    | error failure =>
      obtain ⟨rfl, rfl⟩ := says_pure_iff.1 hrest
      exact .inl ⟨failure, by simpa using hbefore, rfl⟩
  · rintro (⟨failure, hfailed, rfl⟩ | ⟨before, rest, value, rfl, hbefore, hrest⟩)
    · exact ⟨said, [], .error failure, by simp, hfailed, says_pure_iff.2 ⟨rfl, rfl⟩⟩
    · exact ⟨before, rest, .ok value, rfl, hbefore, hrest⟩

/-- A program that cannot fail, followed by an attempt. -/
theorem says_lift_iff {first : Engine α} {next : α → Attempt β} {result : Except Failure β} :
    Says ((liftM first : Attempt α) >>= next).run said result ↔
      ∃ before rest value, said = before ++ rest ∧ Says first before value ∧
        Says (next value).run rest result := by
  have hrun : ((liftM first : Attempt α) >>= next).run = first >>= fun value => (next value).run :=
    ExceptT.run_bind_lift first next
  rw [hrun, says_bind_iff]

/-- A check, followed by an attempt where it succeeds.  Nothing is said for the check. -/
theorem says_check_iff {check : Except Failure α} {next : α → Attempt β} {result : Except Failure β} :
    Says ((liftM check : Attempt α) >>= next).run said result ↔
      (∃ failure, check = .error failure ∧ said = [] ∧ result = .error failure) ∨
        ∃ value, check = .ok value ∧ Says (next value).run said result := by
  cases check with
  | ok value =>
    constructor
    · exact fun h => .inr ⟨value, rfl, h⟩
    · rintro (⟨_, ⟨⟩, _⟩ | ⟨_, ⟨⟩, h⟩)
      exact h
  | error failure =>
    constructor
    · exact fun h => .inl ⟨failure, rfl, says_pure_iff.1 h⟩
    · rintro (⟨_, ⟨⟩, h⟩ | ⟨_, ⟨⟩, _⟩)
      exact says_pure_iff.2 h

/-- A check alone. -/
theorem says_except_iff {check result : Except Failure α} :
    Says (liftM check : Attempt α).run said result ↔ said = [] ∧ result = check := by
  cases check <;> exact says_pure_iff

@[simp] theorem says_throw_iff {failure : Failure} {result : Except Failure α} :
    Says (throw failure : Attempt α).run said result ↔ said = [] ∧ result = .error failure :=
  says_pure_iff

@[simp] theorem says_return_iff {value : α} {result : Except Failure α} :
    Says (pure value : Attempt α).run said result ↔ said = [] ∧ result = .ok value :=
  says_pure_iff

/-- An attempt whose value is changed in the end. -/
theorem says_map_iff {first : Attempt α} {f : α → β} {result : Except Failure β} :
    Says (first >>= fun value => pure (f value)).run said result ↔
      ∃ inner, Says first.run said inner ∧ result = inner.map f := by
  rw [says_attempt_iff]
  constructor
  · rintro (⟨failure, hfirst, rfl⟩ | ⟨before, rest, value, rfl, hfirst, hrest⟩)
    · exact ⟨.error failure, hfirst, rfl⟩
    · obtain ⟨rfl, rfl⟩ := says_return_iff.1 hrest
      exact ⟨.ok value, by simpa using hfirst, rfl⟩
  · rintro ⟨inner, hinner, rfl⟩
    cases inner with
    | ok value => exact .inr ⟨said, [], value, by simp, hinner, says_return_iff.2 ⟨rfl, rfl⟩⟩
    | error failure => exact .inl ⟨failure, hinner, rfl⟩

/-- Nothing is said for the project and the step of a failure. -/
theorem says_within_iff {attempt : Attempt α} {project operation : String} {result : Except Failure α} :
    Says (within project operation attempt).run said result ↔
      ∃ inner, Says attempt.run said inner ∧ result = inner.mapError (.context project operation) := by
  rw [within, ExceptT.run_mk, says_bind_iff]
  constructor
  · rintro ⟨before, rest, inner, rfl, hbefore, hrest⟩
    obtain ⟨rfl, rfl⟩ := says_pure_iff.1 hrest
    exact ⟨inner, by simpa using hbefore, rfl⟩
  · rintro ⟨inner, hinner, rfl⟩
    exact ⟨said, [], inner, by simp, hinner, says_pure_iff.2 ⟨rfl, rfl⟩⟩

/-- A step that is named, followed by an attempt where it succeeds. -/
theorem says_within_then_iff {attempt : Attempt α} {project operation : String} {next : α → Attempt β}
    {result : Except Failure β} :
    Says (within project operation attempt >>= next).run said result ↔
      (∃ failure, Says attempt.run said (.error failure) ∧
        result = .error (.context project operation failure)) ∨
        ∃ before rest value, said = before ++ rest ∧ Says attempt.run before (.ok value) ∧
          Says (next value).run rest result := by
  simp only [says_attempt_iff, says_within_iff]
  constructor
  · rintro (⟨_, ⟨inner, hinner, hmapped⟩, rfl⟩ |
      ⟨before, rest, value, rfl, ⟨inner, hinner, hmapped⟩, hrest⟩)
    · cases inner <;> cases hmapped
      exact .inl ⟨_, hinner, rfl⟩
    · cases inner <;> cases hmapped
      exact .inr ⟨before, rest, value, rfl, hinner, hrest⟩
  · rintro (⟨failure, hinner, rfl⟩ | ⟨before, rest, value, rfl, hinner, hrest⟩)
    · exact .inl ⟨_, ⟨.error failure, hinner, rfl⟩, rfl⟩
    · exact .inr ⟨before, rest, value, rfl, ⟨.ok value, hinner, rfl⟩, hrest⟩

/-! ### Actions -/

theorem says_action_iff {action : Action} {answer : action.Answer} :
    Says (Program.perform (S := actions) action) said answer ↔
      said = (said? ⟨action, answer⟩).toList := by
  have hsaid : [(⟨action, answer⟩ : Program.Reply actions)].filterMap said? =
      (said? ⟨action, answer⟩).toList := by
    rw [List.filterMap_cons]
    cases said? ⟨action, answer⟩ <;> rfl
  constructor
  · rintro ⟨talk, htalk, rfl⟩
    obtain ⟨given, rest, rfl, hdone⟩ := Program.talk_ask_iff.1 htalk
    obtain ⟨rfl, rfl⟩ := Program.talk_done_iff.1 hdone
    exact hsaid
  · rintro rfl
    exact ⟨[⟨action, answer⟩], Program.talk_ask_iff.2 ⟨answer, [], rfl, .done answer⟩, hsaid.symm⟩

@[simp] theorem says_call_iff {c : Call} {reply : Except Failure c.Answer} :
    Says (call c).run said reply ↔ said = [.called c reply] := says_action_iff

@[simp] theorem says_password_iff {fresh : String} : Says password said fresh ↔ said = [] :=
  says_action_iff

@[simp] theorem says_count_iff {event : Event} {value : Unit} :
    Says (count event) said value ↔ said = [] := says_action_iff

@[simp] theorem says_watch_iff {c : Call} {reply : Option (Except Failure c.Answer)} :
    Says (watch c) said reply ↔ said = [reply.elim (.abandoned c) (.called c)] := by
  refine says_action_iff.trans ?_
  cases reply <;> rfl

/-- A call, followed by an attempt where it succeeds. -/
theorem says_call_then_iff {c : Call} {next : c.Answer → Attempt β} {result : Except Failure β} :
    Says (call c >>= next).run said result ↔
      (∃ failure, said = [.called c (.error failure)] ∧ result = .error failure) ∨
        ∃ value rest, said = .called c (.ok value) :: rest ∧ Says (next value).run rest result := by
  simp only [says_attempt_iff, says_call_iff]
  constructor
  · rintro (⟨failure, rfl, rfl⟩ | ⟨_, rest, value, rfl, rfl, hrest⟩)
    · exact .inl ⟨failure, rfl, rfl⟩
    · exact .inr ⟨value, rest, rfl, hrest⟩
  · rintro (⟨failure, rfl, rfl⟩ | ⟨value, rest, rfl, hrest⟩)
    · exact .inl ⟨failure, rfl, rfl⟩
    · exact .inr ⟨_, rest, value, rfl, rfl, hrest⟩

/-- A call of a step that is named, followed by an attempt where it succeeds. -/
theorem says_step_then_iff {c : Call} {project operation : String} {next : c.Answer → Attempt β}
    {result : Except Failure β} :
    Says (within project operation (call c) >>= next).run said result ↔
      (∃ failure, said = [.called c (.error failure)] ∧
        result = .error (.context project operation failure)) ∨
        ∃ value rest, said = .called c (.ok value) :: rest ∧ Says (next value).run rest result := by
  simp only [says_within_then_iff, says_call_iff]
  constructor
  · rintro (⟨failure, rfl, rfl⟩ | ⟨_, rest, value, rfl, rfl, hrest⟩)
    · exact .inl ⟨failure, rfl, rfl⟩
    · exact .inr ⟨value, rest, rfl, hrest⟩
  · rintro (⟨failure, rfl, rfl⟩ | ⟨value, rest, rfl, hrest⟩)
    · exact .inl ⟨failure, rfl, rfl⟩
    · exact .inr ⟨_, rest, value, rfl, rfl, hrest⟩

/-- Nothing is said for a password. -/
theorem says_password_then_iff {next : String → Attempt β} {result : Except Failure β} :
    Says ((liftM password : Attempt String) >>= next).run said result ↔
      ∃ fresh, Says (next fresh).run said result := by
  simp only [says_lift_iff, says_password_iff]
  constructor
  · rintro ⟨_, rest, fresh, rfl, rfl, hrest⟩
    exact ⟨fresh, hrest⟩
  · rintro ⟨fresh, hrest⟩
    exact ⟨[], said, fresh, rfl, rfl, hrest⟩

/-- Nothing is said for what is counted. -/
theorem says_count_then_iff {event : Event} {next : Unit → Attempt β} {result : Except Failure β} :
    Says ((liftM (count event) : Attempt Unit) >>= next).run said result ↔
      Says (next ()).run said result := by
  simp only [says_lift_iff, says_count_iff]
  constructor
  · rintro ⟨_, rest, ⟨⟩, rfl, rfl, hrest⟩
    exact hrest
  · exact fun hrest => ⟨[], said, (), rfl, rfl, hrest⟩

/-- Of a pause only the cancellation that cuts it short is said. -/
@[simp] theorem says_pause_iff {duration : Duration} {going : Bool} :
    Says (Program.perform (S := actions) (.pause duration)) said going ↔
      said = if going then [] else [.cancelled] := by
  refine says_action_iff.trans ?_
  cases going <;> rfl

@[simp] theorem says_cancelled_iff {arrived : Bool} :
    Says (Program.perform (S := actions) .cancelled) said arrived ↔
      said = if arrived then [.cancelled] else [] := by
  refine says_action_iff.trans ?_
  cases arrived <;> rfl

end Engine

end TenantStorage
