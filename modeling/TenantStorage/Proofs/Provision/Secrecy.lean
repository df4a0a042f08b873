import TenantStorage.Proofs.Memory.Hidden
import TenantStorage.Proofs.Paired
import TenantStorage.Proofs.Provision.Asks
import TenantStorage.Proofs.Provision.Histories
import TenantStorage.Proofs.Provision.Recovery

namespace TenantStorage

/-!
# Passwords that decide nothing

Passwords are generated from a stream of random words.  Two histories of the same runs with different words
cannot be told apart by one who sees everything but the passwords.

* `Supplied` — the two systems with a stream of words; `Supplied.answer` generates the passwords from it.
* `Outcome.hidden` — the outcome of a run without the password.
* `shown` — what is seen of actions; `open_controller` and its like — actions of which nothing is kept back.
* `paired_reconcile`, `paired_provision` — the credentials, and a whole run, are in step with themselves.
* `Supplied.alike_answer`, `seen_run`, `seen_history` — a step, a run, and runs one after another.
* `counted_congr` — what is counted is seen, so it is the same, too.
-/

/-! ### Words -/

/-- The two systems, and what is left of a stream of random words. -/
structure Supplied where
  systems : Systems
  words : Words

namespace Supplied

/-- The answer to an action that a turn befalls.  A password is generated; if there are not enough words for one,
    it is empty. -/
def answer (turn : Turn) : (action : Action) → Supplied → action.Answer × Supplied
  | .password, s =>
    let (fresh, words) := (Password.generate s.words).getD ("", s.words)
    (fresh, ⟨s.systems.tick, words⟩)
  | action, s =>
    let (answer, systems) := s.systems.answer turn action
    (answer, { s with systems })

/-- Answers each action as its turn in a course says. -/
def handle (course : Course) (action : Action) (s : Supplied) : action.Answer × Supplied :=
  s.answer (course s.systems.turn) action

/-- There are enough words for the password that is asked for, if one is. -/
def Finishes (s : Supplied) (action : Action) : Prop :=
  action = .password → (Password.generate s.words).isSome = true

instance decidableFinishes (s : Supplied) (action : Action) : Decidable (s.Finishes action) :=
  inferInstanceAs (Decidable (action = .password → (Password.generate s.words).isSome = true))

/-- No other action takes words. -/
theorem answer_of_ne (turn : Turn) {action : Action} (h : action ≠ .password) (s : Supplied) :
    s.answer turn action = ((s.systems.answer turn action).1, ⟨(s.systems.answer turn action).2, s.words⟩) := by
  cases action with
  | password => exact absurd rfl h
  | call _ | watch _ | pause _ | cancelled | count _ => rfl

theorem hidden_eq_password_iff {action : Action} : action.hidden = .password ↔ action = .password := by
  cases action <;> simp [Action.hidden]

/-- Actions that look the same have answers that look the same in systems that look the same, which do so
    afterwards, too. -/
theorem alike_answer (turn : Turn) {action action' : Action} {s t : Supplied}
    (haction : action.hidden = action'.hidden) (hsystems : s.systems.hidden = t.systems.hidden)
    (hs : s.Finishes action) (ht : t.Finishes action') :
    Action.hideReply ⟨action, (s.answer turn action).1⟩ = Action.hideReply ⟨action', (t.answer turn action').1⟩ ∧
      (s.answer turn action).2.systems.hidden = (t.answer turn action').2.systems.hidden := by
  by_cases h : action = .password
  · subst h
    obtain rfl := hidden_eq_password_iff.1 haction.symm
    obtain ⟨⟨fresh, left⟩, hfresh⟩ := Option.isSome_iff_exists.1 (hs rfl)
    obtain ⟨⟨fresh', left'⟩, hfresh'⟩ := Option.isSome_iff_exists.1 (ht rfl)
    -- a generated password is not empty, so there is nothing else to see of it
    have hhide : hide fresh = hide fresh' := by
      rw [hide_of_ne_empty (Password.ne_empty_of_generate hfresh),
        hide_of_ne_empty (Password.ne_empty_of_generate hfresh')]
    simp only [answer, hfresh, hfresh', Option.getD_some]
    exact ⟨congrArg (fun password => (⟨.password, password⟩ : Program.Reply actions)) hhide,
      congrArg Systems.tick hsystems⟩
  · have h' : action' ≠ .password := fun h' => h (hidden_eq_password_iff.1 (haction.trans (by rw [h']; rfl)))
    rw [answer_of_ne turn h, answer_of_ne turn h']
    exact ⟨by rw [Systems.hideReply_answer, Systems.hideReply_answer, haction, hsystems],
      by rw [Systems.hidden_answer, Systems.hidden_answer, haction, hsystems]⟩

end Supplied

namespace Provision

open Program (Paired Open)

/-! ### What is seen -/

/-- How credentials came to agree, without the password. -/
def CredentialOutcome.hidden : CredentialOutcome → CredentialOutcome
  | reconciled credentials => reconciled credentials.hidden
  | secretCreated credentials rotated => secretCreated credentials.hidden rotated

/-- The outcome of a run without the password. -/
def Outcome.hidden (outcome : Outcome) : Outcome := { outcome with credentials := outcome.credentials.hidden }

/-- What is seen of actions and their answers: everything but the passwords. -/
def shown : Program.View actions := ⟨Action.hidden, Action.hideReply⟩

/-- Answers that look the same are the same without passwords. -/
theorem hideAnswer_eq {action : Action} {x y : action.Answer}
    (h : shown.seen ⟨action, x⟩ = shown.seen ⟨action, y⟩) : action.hideAnswer x = action.hideAnswer y :=
  eq_of_heq (Program.Reply.mk.inj h).2

theorem open_controller (call : ControllerCall) : Open shown (Action.call (.controller call)) :=
  fun _ _ h => call.hideAnswer_injective (hideAnswer_eq h)

theorem open_watch (call : ControllerCall) : Open shown (Action.watch (.controller call)) :=
  fun _ _ h => (Option.map_inj_right fun _ _ => call.hideAnswer_injective).1 (hideAnswer_eq h)

theorem open_pause (duration : Duration) : Open shown (Action.pause duration) := fun _ _ h => hideAnswer_eq h

theorem open_cancelled : Open shown Action.cancelled := fun _ _ h => hideAnswer_eq h

theorem open_count (event : Event) : Open shown (Action.count event) := fun _ _ _ => rfl

/-! ### Nodes, machine and interfaces -/

/-- Of failures that are the same the same is said. -/
theorem paired_within {α : Type} {same : α → α → Prop} {attempt attempt' : Attempt α} {project operation : String}
    (h : Paired shown (SameResult same) attempt.run attempt'.run) :
    Paired shown (SameResult same) (Engine.within project operation attempt).run
      (Engine.within project operation attempt').run :=
  h.bind fun _ _ hresult => .done (hresult.mapError _)

theorem paired_selectNodes : Paired shown (SameResult (· = ·)) selectNodes.run selectNodes.run :=
  .same (asks_selectNodes (open_controller _))

theorem paired_ensureSvm (engine : Settings.Engine) (project : String) :
    Paired shown (SameResult (· = ·)) (ensureSvm engine project).run (ensureSvm engine project).run := by
  refine .same ?_
  unfold ensureSvm
  refine .attempt (asks_within (.perform (open_controller _))) fun found => ?_
  match found with
  | some svm => trivial
  | none =>
    refine .attempt (asks_orderSvm (open_controller _) (fun _ _ => open_controller _) (open_count _)) fun _ => ?_
    refine .attempt (asks_within ?_) fun _ => trivial
    exact asks_awaitSvm (open_watch _) (fun _ => open_watch _) open_cancelled (open_pause _) fun _ => open_count _

theorem paired_allocate (engine : Settings.Engine) (request : EndpointRequest) (nodes : List Node) :
    Paired shown (SameResult (· = ·)) (allocate engine request nodes).run (allocate engine request nodes).run :=
  .same (asks_allocate (open_controller _) (fun _ _ => open_controller _) fun _ => open_count _)

/-! ### Credentials -/

/-- Calls that look the same have answers that look the same. -/
theorem paired_call {call call' : Call} (h : call.hidden = call'.hidden) :
    Paired shown (fun x y => call.hideAnswer x ≍ call'.hideAnswer y) (Engine.call call).run
      (Engine.call call').run := by
  have haction : shown.seenOp (.call call) = shown.seenOp (.call call') := congrArg Action.call h
  exact Paired.perform haction fun _ _ hseen => (Program.Reply.mk.inj hseen).2

theorem paired_password :
    Paired shown (fun fresh fresh' => hide fresh = hide fresh') Engine.password Engine.password := by
  have haction : shown.seenOp .password = shown.seenOp .password := rfl
  exact Paired.perform haction fun _ _ => hideAnswer_eq

theorem paired_createAccount (engine : Settings.Engine) (ownerUuid : String) :
    Paired shown (SameResult fun fresh fresh' => fresh.map hide = fresh'.map hide)
      (createAccount engine ownerUuid).run (createAccount engine ownerUuid).run := by
  unfold createAccount
  rw [ExceptT.run_mk]
  refine paired_password.bind fun fresh fresh' hfresh => ?_
  let call (password : String) : Call :=
    .controller (.createAccount ⟨ownerUuid, engine.adminRole, ⟨engine.adminUsername, password⟩⟩)
  have hcall : (call fresh).hidden = (call fresh').hidden := congrArg call hfresh
  refine (paired_call hcall).bind fun result result' h => ?_
  obtain rfl : result = result' := eq_of_heq h
  match result with
  | .ok () => exact .done (.ok (congrArg some hfresh))
  | .error failure =>
    simp only
    split
    · exact .done (.ok rfl)
    · exact .done (.error failure)

theorem paired_rotatePassword (engine : Settings.Engine) (svmName ownerUuid : String) :
    Paired shown (SameResult fun fresh fresh' => hide fresh = hide fresh')
      (rotatePassword engine svmName ownerUuid).run (rotatePassword engine svmName ownerUuid).run := by
  unfold rotatePassword
  refine (Paired.same (.perform (open_controller _))).attempt ?_
  rintro found _ rfl
  match found with
  | none => exact .done (.error _)
  | some _ =>
    simp only
    split
    · exact .done (.error _)
    · refine paired_password.lift fun fresh fresh' hfresh => ?_
      let call (password : String) : Call := .controller (.setPassword ownerUuid engine.adminUsername password)
      have hcall : (call fresh).hidden = (call fresh').hidden := congrArg call hfresh
      refine ((paired_call hcall).mono fun _ _ h => SameResult.of_eq (eq_of_heq h)).attempt fun _ _ _ => ?_
      exact (Paired.of_asks (.perform (open_count _))).lift fun _ _ _ => .done (.ok hfresh)

theorem paired_ensureAccount (engine : Settings.Engine) (svmName ownerUuid : String) :
    Paired shown (SameResult fun fresh fresh' => hide fresh.1 = hide fresh'.1 ∧ fresh.2 = fresh'.2)
      (ensureAccount engine svmName ownerUuid).run (ensureAccount engine svmName ownerUuid).run := by
  unfold ensureAccount
  refine (paired_createAccount engine ownerUuid).attempt fun found found' h => ?_
  match found, found', h with
  | some fresh, some fresh', h => exact .done (.ok ⟨Option.some.inj h, rfl⟩)
  | none, none, _ =>
    exact (paired_rotatePassword engine svmName ownerUuid).attempt fun _ _ hfresh => .done (.ok ⟨hfresh, rfl⟩)

theorem paired_writeSecret (stale : Bool) {record record' : SecretRecord} (h : record.hidden = record'.hidden) :
    Paired shown (SameResult (· = ·)) (writeSecret stale record).run (writeSecret stale record').run := by
  unfold writeSecret
  split
  · have hcall : (Call.secrets (.replace record)).hidden = (Call.secrets (.replace record')).hidden :=
      congrArg (fun record => Call.secrets (.replace record)) h
    exact (paired_call hcall).mono fun _ _ h => SameResult.of_eq (eq_of_heq h)
  · have hcall : (Call.secrets (.create record)).hidden = (Call.secrets (.create record')).hidden :=
      congrArg (fun record => Call.secrets (.create record)) h
    exact (paired_call hcall).mono fun _ _ h => SameResult.of_eq (eq_of_heq h)

/-- The secrets that are found may have different passwords. -/
theorem paired_getSecret (ns name : String) :
    Paired shown (SameResult fun found found' => found.map SecretRecord.hidden = found'.map SecretRecord.hidden)
      (Engine.secrets (.get ns name)).run (Engine.secrets (.get ns name)).run := by
  refine (paired_call (rfl : (Call.secrets (.get ns name)).hidden = _)).mono fun result result' h => ?_
  have hresult : result.map (·.map SecretRecord.hidden) = result'.map (·.map SecretRecord.hidden) := eq_of_heq h
  match result, result', hresult with
  | .ok found, .ok found', h => exact .ok (Except.ok.inj h)
  | .error failure, .error _, rfl => exact .error failure

/-- Either both secrets have a password or neither has. -/
theorem filter_hasPassword_cases {found found' : Option SecretRecord}
    (h : found.map SecretRecord.hidden = found'.map SecretRecord.hidden) :
    (found.filter (·.credentials.hasPassword) = none ∧ found'.filter (·.credentials.hasPassword) = none) ∨
      ∃ record record', found.filter (·.credentials.hasPassword) = some record ∧
        found'.filter (·.credentials.hasPassword) = some record' ∧ record.hidden = record'.hidden := by
  match found, found', h with
  | none, none, _ => exact .inl ⟨rfl, rfl⟩
  | some record, some record', h =>
    have hrecord := Option.some.inj h
    have hpassword : record.credentials.hasPassword = record'.credentials.hasPassword := by
      have hcredentials := congrArg (·.credentials.hasPassword) hrecord
      simpa [SecretRecord.hidden] using hcredentials
    cases hhas : record'.credentials.hasPassword with
    | true => exact .inr ⟨record, record', by simp [hpassword, hhas], by simp [hhas], hrecord⟩
    | false => exact .inl ⟨by simp [hpassword, hhas], by simp [hhas]⟩

theorem paired_reconcile (engine : Settings.Engine) (project : String) (svm : Svm) :
    Paired shown (SameResult fun outcome outcome' => outcome.hidden = outcome'.hidden)
      (reconcile engine project svm).run (reconcile engine project svm).run := by
  unfold reconcile
  refine (paired_getSecret _ _).attempt fun found found' h => ?_
  have hstale : found.isSome = found'.isSome := by simpa using congrArg Option.isSome h
  rcases filter_hasPassword_cases h with ⟨hnone, hnone'⟩ | ⟨record, record', hsome, hsome', hrecord⟩
  · simp only [hnone, hnone', hstale]
    refine .check fun uuid => ?_
    refine (paired_ensureAccount engine svm.name uuid).attempt fun fresh fresh' hfresh => ?_
    obtain ⟨hpassword, hrotated⟩ := hfresh
    have hcredentials : (⟨engine.adminUsername, fresh.1⟩ : Credentials).hidden =
        (⟨engine.adminUsername, fresh'.1⟩ : Credentials).hidden :=
      congrArg (Credentials.mk engine.adminUsername) hpassword
    have hrecord : (projectSecret engine project ⟨engine.adminUsername, fresh.1⟩).hidden =
        (projectSecret engine project ⟨engine.adminUsername, fresh'.1⟩).hidden :=
      congrArg (projectSecret engine project) hcredentials
    refine (paired_writeSecret _ hrecord).attempt fun _ _ _ => ?_
    exact .done (.ok (congrArg₂ CredentialOutcome.secretCreated hcredentials hrotated))
  · simp only [hsome, hsome']
    exact .done (.ok (congrArg CredentialOutcome.reconciled (congrArg SecretRecord.credentials hrecord)))

/-! ### A run -/

theorem paired_steps (request : Request) (engine : Settings.Engine) :
    Paired shown (SameResult fun outcome outcome' => outcome.hidden = outcome'.hidden)
      (request.steps engine).run (request.steps engine).run := by
  unfold Request.steps
  refine .check fun _ => ?_
  refine (paired_within paired_selectNodes).attempt ?_
  rintro nodes _ rfl
  refine (paired_ensureSvm engine request.projectId).attempt ?_
  rintro machine _ rfl
  refine (paired_within (.same ?_)).attempt ?_
  · cases requireUuid machine.1 <;> trivial
  rintro svmUuid _ rfl
  refine (paired_within (paired_allocate engine _ nodes)).attempt ?_
  rintro interfaces _ rfl
  refine (paired_within (paired_reconcile engine request.projectId machine.1)).attempt fun _ _ h => ?_
  exact .done (.ok (congrArg (Outcome.mk machine.1 machine.2 interfaces) h))

theorem paired_provision (request : Request) (engine : Settings.Engine) :
    Paired shown (fun result result' => result.map Outcome.hidden = result'.map Outcome.hidden)
      (request.provision engine).run (request.provision engine).run := by
  unfold Request.provision
  rw [ExceptT.run_mk]
  refine (paired_steps request engine).bind fun result result' h => ?_
  rw [h.isOk_eq]
  exact (Paired.of_asks (.perform (open_count _))).bind fun _ _ _ => .done h.map_eq

/-! ### Histories -/

/-- What is seen of a run that is over. -/
structure Seen where
  /-- Everything that was asked for, with the answers. -/
  talk : List (Program.Reply actions)
  result : Except Failure Outcome

/-- What is seen of a run that is over: everything but the passwords. -/
def Past.seen (made : Past Supplied) : Seen where
  talk := made.moves.map fun move => Action.hideReply ⟨move.op, move.answer⟩
  result := made.result.map Outcome.hidden

/-- Runs with enough words for the passwords that they generate. -/
def Finish (past : List (Past Supplied)) : Prop :=
  ∀ made ∈ past, ∀ move ∈ made.moves, move.before.Finishes move.op

instance (past : List (Past Supplied)) : Decidable (Finish past) :=
  have (move : Program.Move actions Supplied) : Decidable (move.before.Finishes move.op) :=
    Supplied.decidableFinishes move.before move.op
  inferInstanceAs (Decidable (∀ made ∈ past, ∀ move ∈ made.moves, move.before.Finishes move.op))

/-- What is counted is seen. -/
theorem event?_hidden (action : Action) : action.hidden.event? = action.event? := by
  cases action <;> rfl

theorem events_seen (made : Past Supplied) :
    events made.moves = made.seen.talk.filterMap fun reply => Action.event? reply.op := by
  rw [events, Past.seen, List.filterMap_map]
  exact congrArg (made.moves.filterMap ·) (funext fun move => (event?_hidden move.op).symm)

/-- Runs of which the same is seen have counted the same. -/
theorem counted_congr {past past' : List (Past Supplied)} (h : past.map Past.seen = past'.map Past.seen) :
    counted past = counted past' := by
  have hevents (past : List (Past Supplied)) : events (past.flatMap (·.moves)) =
      (past.map Past.seen).flatMap fun seen => seen.talk.filterMap fun reply => Action.event? reply.op := by
    rw [events, List.filterMap_flatMap, List.flatMap_map]
    exact congrArg (past.flatMap ·) (funext events_seen)
  rw [counted, counted, hevents, hevents, h]

variable {engine : Settings.Engine}

/-- The systems look the same, whatever words are left. -/
abbrev SameView (s t : Supplied) : Prop := s.systems.hidden = t.systems.hidden

/-- The same run with different words. -/
theorem seen_run (run : Attempted) {s t : Supplied} (hview : SameView s t) :
    let program := (run.request.provision engine).run
    let moves (s : Supplied) := Program.moves (S := actions) (Supplied.handle run.course) program s
    let ended (s : Supplied) := Program.run (S := actions) (Supplied.handle run.course) program s
    (∀ move ∈ moves s, move.before.Finishes move.op) → (∀ move ∈ moves t, move.before.Finishes move.op) →
      Past.seen ⟨run, (ended s).1, moves s⟩ = Past.seen ⟨run, (ended t).1, moves t⟩ ∧
        SameView (ended s).2 (ended t).2 := by
  intro program moves ended hs ht
  have hstep (action action' : Action) (s t : Supplied) (haction : shown.seenOp action = shown.seenOp action')
      (hview : SameView s t) (hs : s.Finishes action) (ht : t.Finishes action') :
      shown.seen ⟨action, (Supplied.handle run.course action s).1⟩ =
          shown.seen ⟨action', (Supplied.handle run.course action' t).1⟩ ∧
        SameView (Supplied.handle run.course action s).2 (Supplied.handle run.course action' t).2 := by
    have hturn : s.systems.turn = t.systems.turn := congrArg (·.turn) hview
    rw [Supplied.handle, Supplied.handle, hturn]
    exact Supplied.alike_answer _ haction hview hs ht
  obtain ⟨hresult, hfinal, htalk⟩ := Paired.run hstep (paired_provision run.request engine) hview hs ht
  refine ⟨?_, hfinal⟩
  simp only [Program.talk, List.map_map] at htalk
  exact congrArg₂ Seen.mk htalk hresult

/-- The same runs one after another with different words. -/
theorem seen_history (engine : Settings.Engine) (runs : List Attempted) {s t : Supplied} (hview : SameView s t)
    (hs : Finish (history Supplied.handle engine runs s).1)
    (ht : Finish (history Supplied.handle engine runs t).1) :
    (history Supplied.handle engine runs s).1.map Past.seen =
        (history Supplied.handle engine runs t).1.map Past.seen ∧
      SameView (history Supplied.handle engine runs s).2 (history Supplied.handle engine runs t).2 := by
  induction runs generalizing s t with
  | nil => exact ⟨rfl, hview⟩
  | cons run rest ih =>
    obtain ⟨hfirst, hlater⟩ := List.forall_mem_cons.1 hs
    obtain ⟨hfirst', hlater'⟩ := List.forall_mem_cons.1 ht
    obtain ⟨hseen, hafter⟩ := seen_run run hview hfirst hfirst'
    obtain ⟨hrest, hfinal⟩ := ih hafter hlater hlater'
    exact ⟨congrArg₂ List.cons hseen hrest, hfinal⟩

/-- **Passwords decide nothing.**  Runs one after another, whatever befalls them, are made twice from the same
    systems, with different words from which every password that is asked for can be generated.  But for the
    passwords, the same is asked for and answered, each run has the same result with the same failure, the same is
    counted, and the same systems are left. -/
theorem secrecy_of_history (engine : Settings.Engine) (runs : List Attempted) (systems : Systems)
    {words words' : Words} (hfinish : Finish (history Supplied.handle engine runs ⟨systems, words⟩).1)
    (hfinish' : Finish (history Supplied.handle engine runs ⟨systems, words'⟩).1) :
    let (past, final) := history Supplied.handle engine runs ⟨systems, words⟩
    let (past', final') := history Supplied.handle engine runs ⟨systems, words'⟩
    past.map Past.seen = past'.map Past.seen ∧ counted past = counted past' ∧
      final.systems.hidden = final'.systems.hidden := by
  have hview : SameView ⟨systems, words⟩ ⟨systems, words'⟩ := rfl
  obtain ⟨hseen, hfinal⟩ := seen_history engine runs hview hfinish hfinish'
  exact ⟨hseen, counted_congr hseen, hfinal⟩

/-- A run after which an account is left without its secret, and one that replaces its password. -/
theorem secrecy_of_lostRun :
    let (past, final) := history Supplied.handle default [lostRun, smoothRun] ⟨twoNodes, SplitMix.words 1 80⟩
    let (past', final') := history Supplied.handle default [lostRun, smoothRun] ⟨twoNodes, SplitMix.words 2 80⟩
    Finish past ∧ Finish past' ∧ final.systems ≠ final'.systems ∧
      past.map Past.seen = past'.map Past.seen ∧ counted past = counted past' ∧
        final.systems.hidden = final'.systems.hidden := by
  have hfinish : Finish
      (history Supplied.handle default [lostRun, smoothRun] ⟨twoNodes, SplitMix.words 1 80⟩).1 := by
    decide +kernel
  have hfinish' : Finish
      (history Supplied.handle default [lostRun, smoothRun] ⟨twoNodes, SplitMix.words 2 80⟩).1 := by
    decide +kernel
  exact ⟨hfinish, hfinish', by decide +kernel,
    secrecy_of_history default [lostRun, smoothRun] twoNodes hfinish hfinish'⟩

end Provision

end TenantStorage
