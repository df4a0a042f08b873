import TenantStorage.Proofs.Credentials.Agreement
import TenantStorage.Proofs.Interleaving

namespace TenantStorage

open Systems

/-!
# Reconciliations of one project at the same time

Nothing keeps two reconciliations of one project apart.  Each of them stores the password that it gave to the
account itself, but between the two writes another one may give the account a password of its own.  So account
and secret agree exactly when the same password was handed to the run that wrote the account last and to the
one that wrote the secret last, in particular when these are the same run.

* `Call.accountPassword?`, `Call.secretPassword?` — the password that a call writes to an account or a secret.
* `Honest` — histories in which the password that was handed out last is the one that was written.
* `honest_reconcile` — a reconciliation has only such histories, whatever it is told.
* `race` — reconciliations that share both systems and take turns.
* `agree_iff_of_race` — when account and secret agree.
-/

/-! ### What was written -/

/-- The call that a reply reports as successful. -/
def taken? : Program.Reply actions → Option Call
  | ⟨.call c, .ok _⟩ => some c
  | ⟨.watch c, some (.ok _)⟩ => some c
  | _ => none

/-- The password that was given to an account. -/
def accountWrite? (key : KeyPair) (reply : Program.Reply actions) : Option String :=
  (taken? reply).bind (Call.accountPassword? key)

/-- The password that was given to a secret. -/
def secretWrite? (key : KeyPair) (reply : Program.Reply actions) : Option String :=
  (taken? reply).bind (Call.secretPassword? key)

/-- The password that was handed out. -/
def handedOut? : Program.Reply actions → Option String
  | ⟨.password, fresh⟩ => some fresh
  | _ => none

/-! ### The history of one run -/

section History

variable {accountKey key : KeyPair} {history : List (Program.Reply actions)}

/-- The account was given the password that was handed out last, and the secret the account's. -/
structure Honest (accountKey key : KeyPair) (history : List (Program.Reply actions)) : Prop where
  account : ∀ password, history.findSome? (accountWrite? accountKey) = some password →
    history.findSome? handedOut? = some password
  secret : ∀ password, history.findSome? (secretWrite? key) = some password →
    history.findSome? (accountWrite? accountKey) = some password

/-- Neither the account nor the secret was written. -/
structure Unwritten (accountKey key : KeyPair) (history : List (Program.Reply actions)) : Prop where
  account : history.findSome? (accountWrite? accountKey) = none
  secret : history.findSome? (secretWrite? key) = none

/-- The account was given the password that was handed out last, and the secret was not written. -/
structure Holding (accountKey key : KeyPair) (password : String)
    (history : List (Program.Reply actions)) : Prop where
  account : history.findSome? (accountWrite? accountKey) = some password
  handed : history.findSome? handedOut? = some password
  secret : history.findSome? (secretWrite? key) = none

theorem Unwritten.honest (h : Unwritten accountKey key history) : Honest accountKey key history where
  account password hpassword := by cases h.account.symm.trans hpassword
  secret password hpassword := by cases h.secret.symm.trans hpassword

theorem Holding.honest {password : String} (h : Holding accountKey key password history) :
    Honest accountKey key history where
  account password' hpassword := h.handed.trans (h.account.symm.trans hpassword)
  secret password' hpassword := by cases h.secret.symm.trans hpassword

/-- A reply that wrote nothing. -/
theorem Unwritten.cons {reply : Program.Reply actions} (h : Unwritten accountKey key history)
    (haccount : accountWrite? accountKey reply = none) (hsecret : secretWrite? key reply = none) :
    Unwritten accountKey key (reply :: history) where
  account := by rw [List.findSome?_cons, haccount]; exact h.account
  secret := by rw [List.findSome?_cons, hsecret]; exact h.secret

/-- A reply that gave the account the password that was handed out last. -/
theorem Unwritten.holding {reply : Program.Reply actions} {password : String}
    (h : Unwritten accountKey key history) (hhanded : history.findSome? handedOut? = some password)
    (haccount : accountWrite? accountKey reply = some password)
    (hsecret : secretWrite? key reply = none) (hreply : handedOut? reply = none) :
    Holding accountKey key password (reply :: history) where
  account := by rw [List.findSome?_cons, haccount]
  handed := by rw [List.findSome?_cons, hreply]; exact hhanded
  secret := by rw [List.findSome?_cons, hsecret]; exact h.secret

/-- A reply that neither wrote anything nor handed out a password. -/
theorem Holding.cons {reply : Program.Reply actions} {password : String}
    (h : Holding accountKey key password history) (haccount : accountWrite? accountKey reply = none)
    (hsecret : secretWrite? key reply = none) (hreply : handedOut? reply = none) :
    Holding accountKey key password (reply :: history) where
  account := by rw [List.findSome?_cons, haccount]; exact h.account
  handed := by rw [List.findSome?_cons, hreply]; exact h.handed
  secret := by rw [List.findSome?_cons, hsecret]; exact h.secret

/-- A reply that gave the secret the password of the account. -/
theorem Holding.honest_cons {reply : Program.Reply actions} {password : String}
    (h : Holding accountKey key password history) (haccount : accountWrite? accountKey reply = none)
    (hsecret : ∀ stored, secretWrite? key reply = some stored → stored = password)
    (hreply : handedOut? reply = none) : Honest accountKey key (reply :: history) where
  account stored hstored := by
    rw [List.findSome?_cons, haccount] at hstored
    rw [List.findSome?_cons, hreply]
    exact h.honest.account stored hstored
  secret stored hstored := by
    rw [List.findSome?_cons, haccount]
    cases hwrite : secretWrite? key reply with
    | none =>
      rw [List.findSome?_cons, hwrite] at hstored
      exact h.honest.secret stored hstored
    | some written =>
      rw [List.findSome?_cons, hwrite] at hstored
      obtain rfl : written = stored := Option.some.inj hstored
      rw [hsecret written hwrite]
      exact h.account

/-- The promise that all histories are honest. -/
def honestly (accountKey key : KeyPair) : Program.Conduct actions (List (Program.Reply actions)) :=
  fun _ _ _ history' => Honest accountKey key history'

/-- The rule for a call, whatever the answer is. -/
theorem recorded_call {c : Call} {guarantee : Program.Conduct actions (List (Program.Reply actions))}
    {post : Except Failure c.Answer → List (Program.Reply actions) → Prop}
    (h : ∀ answer, guarantee (.call c) history answer (⟨.call c, answer⟩ :: history) ∧
      post answer (⟨.call c, answer⟩ :: history)) :
    Program.Ensures Program.recorded guarantee post (Engine.call c).run history := by
  rintro answer _ rfl
  exact h answer

/-- The rule for a fresh password, whatever it is. -/
theorem recorded_password {guarantee : Program.Conduct actions (List (Program.Reply actions))}
    {post : String → List (Program.Reply actions) → Prop}
    (h : ∀ fresh, guarantee .password history fresh (⟨.password, fresh⟩ :: history) ∧
      post fresh (⟨.password, fresh⟩ :: history)) :
    Program.Ensures Program.recorded guarantee post Engine.password history := by
  rintro fresh _ rfl
  exact h fresh

end History

namespace Provision

variable {engine : Settings.Engine} {uuid : String} {key : KeyPair}
  {history : List (Program.Reply actions)}

/-- The place of the administrative account of a machine. -/
def adminKey (engine : Settings.Engine) (uuid : String) : KeyPair := ⟨uuid, engine.adminUsername⟩

theorem recorded_createAccount (h : Unwritten (adminKey engine uuid) key history) :
    Program.Ensures Program.recorded (honestly (adminKey engine uuid) key)
      (fun result history' =>
        (∀ fresh, result = .ok (some fresh) → Holding (adminKey engine uuid) key fresh history') ∧
        (result = .ok none → Unwritten (adminKey engine uuid) key history'))
      (createAccount engine uuid).run history := by
  unfold createAccount
  rw [ExceptT.run_mk, Program.ensures_bind]
  refine recorded_password fun fresh => ?_
  have hfresh : Unwritten (adminKey engine uuid) key (⟨.password, fresh⟩ :: history) := h.cons rfl rfl
  refine ⟨hfresh.honest, ?_⟩
  rw [Program.ensures_bind]
  refine recorded_call fun answer => ?_
  -- only an account that was created has the password; one that exists keeps its own
  cases answer with
  | ok value =>
    have hholding : Holding (adminKey engine uuid) key fresh (⟨.call (.controller (.createAccount
        ⟨uuid, engine.adminRole, ⟨engine.adminUsername, fresh⟩⟩)), .ok value⟩ :: _) :=
      hfresh.holding rfl (if_pos rfl) rfl rfl
    exact ⟨hholding.honest, by rintro _ ⟨⟩; exact hholding, by rintro ⟨⟩⟩
  | error failure =>
    have hunwritten : Unwritten (adminKey engine uuid) key (⟨.call (.controller (.createAccount
        ⟨uuid, engine.adminRole, ⟨engine.adminUsername, fresh⟩⟩)), .error failure⟩ :: _) :=
      hfresh.cons rfl rfl
    refine ⟨hunwritten.honest, ?_⟩
    by_cases hkind : failure.isAlreadyExists = true
    · simp only [hkind, if_true]
      exact ⟨by rintro _ ⟨⟩, fun _ => hunwritten⟩
    · simp only [hkind]
      exact ⟨by rintro _ ⟨⟩, by rintro ⟨⟩⟩

theorem recorded_refresh (h : Unwritten (adminKey engine uuid) key history) :
    Program.Ensures Program.recorded (honestly (adminKey engine uuid) key)
      (fun result history' => ∀ fresh, result = .ok fresh →
        Holding (adminKey engine uuid) key fresh history')
      (do
        let fresh ← Engine.password
        Engine.controller (.setPassword uuid engine.adminUsername fresh)
        Engine.count .rotation
        return fresh : Attempt String).run history := by
  refine Program.Ensures.lift (recorded_password fun fresh => ?_)
  have hfresh : Unwritten (adminKey engine uuid) key (⟨.password, fresh⟩ :: history) := h.cons rfl rfl
  refine ⟨hfresh.honest, ?_⟩
  refine Program.Ensures.attempt (fun result history' => result = .ok () →
    Holding (adminKey engine uuid) key fresh history') ?_ ?_ (fun _ _ _ _ herror => by cases herror)
  · refine recorded_call fun answer => ?_
    cases answer with
    | ok value =>
      have hholding : Holding (adminKey engine uuid) key fresh (⟨.call (.controller
          (.setPassword uuid engine.adminUsername fresh)), .ok value⟩ :: _) :=
        hfresh.holding rfl (if_pos rfl) rfl rfl
      exact ⟨hholding.honest, fun _ => hholding⟩
    | error failure =>
      have hunwritten : Unwritten (adminKey engine uuid) key (⟨.call (.controller
          (.setPassword uuid engine.adminUsername fresh)), .error failure⟩ :: _) :=
        hfresh.cons rfl rfl
      exact ⟨hunwritten.honest, by rintro ⟨⟩⟩
  · intro value history' hholding
    refine Program.Ensures.lift ?_
    rintro ⟨⟩ _ rfl
    have hcounted : Holding (adminKey engine uuid) key fresh (⟨.count .rotation, ()⟩ :: _) :=
      (hholding rfl).cons rfl rfl rfl
    exact ⟨hcounted.honest, by rintro _ ⟨⟩; exact hcounted⟩

theorem recorded_rotatePassword (svmName : String)
    (h : Unwritten (adminKey engine uuid) key history) :
    Program.Ensures Program.recorded (honestly (adminKey engine uuid) key)
      (fun result history' => ∀ fresh, result = .ok fresh →
        Holding (adminKey engine uuid) key fresh history')
      (rotatePassword engine svmName uuid).run history := by
  unfold rotatePassword
  refine Program.Ensures.attempt (fun _ history' => Unwritten (adminKey engine uuid) key history')
    ?_ ?_ (fun _ _ _ _ herror => by cases herror)
  · refine recorded_call fun answer => ?_
    have hread : Unwritten (adminKey engine uuid) key
        (⟨.call (.controller (.account uuid engine.adminUsername)), answer⟩ :: history) := by
      cases answer <;> exact h.cons rfl rfl
    exact ⟨hread.honest, hread⟩
  · intro found history' hread
    match found with
    | none => rintro _ ⟨⟩
    | some account =>
      by_cases hrotate : engine.rotateOnMissingSecret = true
      · simp only [hrotate, Bool.not_true, Bool.false_eq_true, if_false]
        exact recorded_refresh hread
      · simp only [hrotate]
        intro _ hok
        cases hok

theorem recorded_ensureAccount (svmName : String)
    (h : Unwritten (adminKey engine uuid) key history) :
    Program.Ensures Program.recorded (honestly (adminKey engine uuid) key)
      (fun result history' => ∀ fresh rotated, result = .ok (fresh, rotated) →
        Holding (adminKey engine uuid) key fresh history')
      (ensureAccount engine svmName uuid).run history := by
  unfold ensureAccount
  refine Program.Ensures.attempt _ (recorded_createAccount h) ?_ ?_
  · intro found history' hpost
    obtain ⟨hcreated, hexists⟩ := hpost
    match found with
    | some fresh =>
      intro _ rotated hok
      cases hok
      exact hcreated fresh rfl
    | none =>
      refine Program.Ensures.attempt _ (recorded_rotatePassword svmName (hexists rfl)) ?_ ?_
      · intro fresh history'' hrotated _ rotated hok
        cases hok
        exact hrotated fresh rfl
      · intro failure history'' _ _ rotated herror
        cases herror
  · intro failure history' _ _ rotated herror
    cases herror

theorem recorded_writeSecret {record : SecretRecord} (stale : Bool)
    (h : Holding (adminKey engine uuid) key record.credentials.password history) :
    Program.Ensures Program.recorded (honestly (adminKey engine uuid) key) (fun _ _ => True)
      (writeSecret stale record).run history := by
  unfold writeSecret
  split
  all_goals
    refine recorded_call fun answer => ⟨?_, trivial⟩
    refine h.honest_cons (by cases answer <;> rfl) ?_ rfl
    intro stored hstored
    cases answer with
    | ok value =>
      obtain ⟨-, hwritten⟩ := Option.ite_none_right_eq_some.1 hstored
      exact (Option.some.inj hwritten).symm
    | error failure => cases hstored

/-- **A reconciliation is honest**, whatever it is told: it stores the password that it gave to the account,
    and writes nothing after that. -/
theorem honest_reconcile (engine : Settings.Engine) (project : String) {svm : Svm}
    (huuid : svm.uuid = some uuid) (key : KeyPair) :
    Program.Disciplined (reconcile engine project svm).run (Honest (adminKey engine uuid) key) [] := by
  have hstart : Unwritten (adminKey engine uuid) key [] := ⟨rfl, rfl⟩
  rw [Program.Disciplined, reconcile]
  refine Program.Ensures.attempt (fun _ history => Unwritten (adminKey engine uuid) key history)
    ?_ ?_ (fun _ _ _ => trivial)
  · rintro answer _ rfl
    have hread : Unwritten (adminKey engine uuid) key (⟨.call (.secrets (.get
        engine.secretNamespace (engine.secretName project))), answer⟩ :: []) := by
      cases answer <;> exact hstart.cons rfl rfl
    exact ⟨hread.honest, hread⟩
  · intro existing history hread
    cases existing.filter (·.credentials.hasPassword) with
    | some record => trivial
    | none =>
      refine Program.Ensures.check ?_ (fun _ _ => trivial)
      intro owner howner
      obtain rfl : uuid = owner :=
        Option.some.inj (huuid.symm.trans (requireUuid_eq_ok_iff.1 howner))
      refine Program.Ensures.attempt _ (recorded_ensureAccount svm.name hread) ?_
        (fun _ _ _ => trivial)
      rintro ⟨fresh, rotated⟩ history' hensured
      have hholding := hensured fresh rotated rfl
      exact Program.Ensures.attempt _ (recorded_writeSecret existing.isSome hholding)
        (fun _ _ _ => trivial) (fun _ _ _ => trivial)

/-! ### The shared systems -/

section Systems

variable {project : String} {s : Systems} {turn : Turn}

theorem bind_ite_some {α β : Type} (p : Prop) [Decidable p] (a : α) (f : α → Option β) :
    (if p then some a else none).bind f = if p then f a else none := by
  split <;> rfl

/-- Without mishaps a reply tells whether a call was taken, and the systems are as the call leaves them. -/
theorem taken_answer (hturn : turn.Faultless) (action : Action) (s : Systems) :
    taken? ⟨action, (s.answer turn action).1⟩ = none ∧ (s.answer turn action).2 = s.tick ∨
      ∃ c, taken? ⟨action, (s.answer turn action).1⟩ =
          (if (s.perform c).1.isOk then some c else none) ∧
        (s.answer turn action).2 = (s.perform c).2.tick := by
  cases action with
  | call c =>
    have hattend := attend_of_faultless hturn c s
    refine .inr ⟨c, ?_, congrArg Prod.snd hattend⟩
    rw [answer, hattend]
    cases (s.perform c).1 <;> rfl
  | watch c =>
    rw [answer]
    cases turn.cancelled with
    | true => exact .inl ⟨rfl, rfl⟩
    | false =>
      have hattend := attend_of_faultless hturn c s
      refine .inr ⟨c, ?_, congrArg Prod.snd hattend⟩
      simp only [hattend]
      cases (s.perform c).1 <;> rfl
  | pause _ | cancelled | password | count _ => exact .inl ⟨rfl, rfl⟩

/-- Without mishaps an action leaves the account with the password that it is seen to have given to it. -/
theorem adminPassword_answer (hturn : turn.Faultless) (action : Action) (s : Systems) :
    adminPassword engine uuid (s.answer turn action).2 =
      (accountWrite? (adminKey engine uuid) ⟨action, (s.answer turn action).1⟩).or
        (adminPassword engine uuid s) := by
  rcases taken_answer hturn action s with ⟨htaken, hafter⟩ | ⟨c, htaken, hafter⟩
  · rw [accountWrite?, htaken, hafter]
    rfl
  · rw [accountWrite?, htaken, hafter, bind_ite_some]
    cases c with
    | controller call => exact MemoryController.passwordOf_perform call (adminKey engine uuid) _
    | secrets call => split <;> rfl

/-- Without mishaps an action leaves the secret with the password that it is seen to have given to it. -/
theorem secretPassword_answer (hturn : turn.Faultless) (action : Action) (s : Systems) :
    secretPassword engine project (s.answer turn action).2 =
      match secretWrite? (secretKey engine project) ⟨action, (s.answer turn action).1⟩ with
      | some password => (some password).filter (· != "")
      | none => secretPassword engine project s := by
  rcases taken_answer hturn action s with ⟨htaken, hafter⟩ | ⟨c, htaken, hafter⟩
  · rw [secretWrite?, htaken, hafter]
    rfl
  · rw [secretWrite?, htaken, hafter, bind_ite_some]
    cases c with
    | controller call =>
      have hnone : (if (s.perform (.controller call)).1.isOk then
          Call.secretPassword? (secretKey engine project) (.controller call) else none) = none := by
        split <;> rfl
      rw [hnone]
      rfl
    | secrets call => exact MemorySecrets.passwordAt_perform call (secretKey engine project) _

end Systems

/-! ### Reconciliations that take turns -/

section Kept

variable {ι : Type} {project : String} {s : Systems} {log : List (ι × Program.Reply actions)}

/-- The account and the secret have the passwords that were given to them last. -/
structure Kept (engine : Settings.Engine) (project uuid : String) (s : Systems)
    (log : List (ι × Program.Reply actions)) : Prop where
  account : ∀ i password,
    Pool.lastOf (accountWrite? (adminKey engine uuid)) log = some (i, password) →
      adminPassword engine uuid s = some password
  secret : ∀ password, secretPassword engine project s = some password →
    ∃ i, Pool.lastOf (secretWrite? (secretKey engine project)) log = some (i, password)

theorem Kept.cons (h : Kept engine project uuid s log) {turn : Turn} (hturn : turn.Faultless) (i : ι)
    (action : Action) :
    Kept engine project uuid (s.answer turn action).2
      ((i, ⟨action, (s.answer turn action).1⟩) :: log) where
  account j password hlast := by
    rw [adminPassword_answer hturn]
    -- either this step wrote the account last, or the last write came before it
    cases hwrite : accountWrite? (adminKey engine uuid) ⟨action, (s.answer turn action).1⟩ with
    | some written =>
      cases (Pool.lastOf_cons_of_some hwrite i log).symm.trans hlast
      rfl
    | none =>
      rw [Pool.lastOf_cons_of_none hwrite] at hlast
      exact h.account j password hlast
  secret password hpassword := by
    rw [secretPassword_answer hturn] at hpassword
    cases hwrite : secretWrite? (secretKey engine project) ⟨action, (s.answer turn action).1⟩ with
    | some written =>
      rw [hwrite] at hpassword
      obtain ⟨hwritten, -⟩ := Option.filter_eq_some_iff.1 hpassword
      cases hwritten
      exact ⟨i, Pool.lastOf_cons_of_some hwrite i log⟩
    | none =>
      rw [hwrite] at hpassword
      rw [Pool.lastOf_cons_of_none hwrite]
      exact h.secret password hpassword

end Kept

section Race

variable {ι : Type} [DecidableEq ι]

/-- Reconciliations for one project, one for each `i`, that share both systems and take turns as a schedule
    says.  Each has its own source of passwords. -/
def race (engine : Settings.Engine) (project : String) (svm : ι → Svm) (courses : ι → Course)
    (schedule : List ι) (s : Systems) : Pool ι actions (Except Failure CredentialOutcome) Systems :=
  Pool.run (fun i => handle (courses i)) schedule
    { programs := fun i => (reconcile engine project (svm i)).run, state := s, log := [] }

variable {project : String} {svm : ι → Svm} {courses : ι → Course} {s : Systems}

theorem kept_race (hfaultless : ∀ i n, (courses i n).Faultless)
    (hempty : secretPassword engine project s = none) (schedule : List ι) :
    Kept engine project uuid (race engine project svm courses schedule s).state
      (race engine project svm courses schedule s).log := by
  refine Pool.run_invariant (fun pool => Kept engine project uuid pool.state pool.log) ?_ schedule ?_
  · intro pool i hkept
    rcases Pool.step_cases (fun i => handle (courses i)) pool i with hstep | ⟨action, _, -, hstep⟩
    · rw [hstep]
      exact hkept
    · rw [hstep]
      exact hkept.cons (hfaultless i pool.state.turn) i action
  · exact {
      account := by rintro i password ⟨⟩
      secret := fun password hpassword => by cases hempty.symm.trans hpassword }

theorem honest_race (huuid : ∀ i, (svm i).uuid = some uuid) (schedule : List ι) (i : ι) :
    Honest (adminKey engine uuid) (secretKey engine project)
      (Pool.historyOf i (race engine project svm courses schedule s).log) := by
  refine Pool.history_of_disciplined
    (fun _ : ι => Honest (adminKey engine uuid) (secretKey engine project)) schedule
    (fun j => ⟨?_, ?_⟩) i
  · exact Unwritten.honest ⟨rfl, rfl⟩
  · exact honest_reconcile engine project (huuid j) (secretKey engine project)

/-- The password that was handed out last to one of the reconciliations. -/
def lastHandedOut (i : ι) (log : List (ι × Program.Reply actions)) : Option String :=
  (Pool.historyOf i log).findSome? handedOut?

/-- **When account and secret agree.**  At any time in a race that began without a stored password, a stored
    password is the account's exactly if the same password was handed out last to the reconciliation that
    stored it and to the one that wrote the account last.  This is so when these two are one. -/
theorem agree_iff_of_race (hfaultless : ∀ i n, (courses i n).Faultless)
    (huuid : ∀ i, (svm i).uuid = some uuid) (hempty : secretPassword engine project s = none)
    (schedule : List ι) {password : String}
    (hpassword : secretPassword engine project
      (race engine project svm courses schedule s).state = some password) :
    ∃ i j stored given,
      Pool.lastOf (secretWrite? (secretKey engine project))
        (race engine project svm courses schedule s).log = some (i, stored) ∧
      Pool.lastOf (accountWrite? (adminKey engine uuid))
        (race engine project svm courses schedule s).log = some (j, given) ∧
      (adminPassword engine uuid (race engine project svm courses schedule s).state = some password ↔
        lastHandedOut i (race engine project svm courses schedule s).log =
          lastHandedOut j (race engine project svm courses schedule s).log) := by
  generalize hpool : race engine project svm courses schedule s = pool at hpassword ⊢
  have hkept : Kept engine project uuid pool.state pool.log := hpool ▸ kept_race hfaultless hempty schedule
  have hhonest (i : ι) : Honest (adminKey engine uuid) (secretKey engine project)
    (Pool.historyOf i pool.log) := hpool ▸ honest_race huuid schedule i
  -- some run stored the password, and gave it to the account before, so the account was written
  obtain ⟨i, hstored⟩ := hkept.secret password hpassword
  have haccount := (hhonest i).secret password (Pool.findSome?_historyOf hstored)
  obtain ⟨⟨j, given⟩, hgiven⟩ := Option.isSome_iff_exists.1 (Pool.lastOf_isSome haccount)
  refine ⟨i, j, password, given, hstored, hgiven, ?_⟩
  -- both passwords are the ones that the two runs were handed last
  rw [hkept.account j given hgiven, lastHandedOut, lastHandedOut,
    (hhonest i).account password haccount,
    (hhonest j).account given (Pool.findSome?_historyOf hgiven), eq_comm]

/-- A machine that two reconciliations are shown. -/
def sharedSvm (_ : Bool) : Svm := ⟨"tenant-a", some "uuid-a", .running, true, []⟩

/-- Two sources of one password each. -/
def twoSources (second : Bool) : Course := fun _ => ⟨none, false, if second then "second" else "first"⟩

/-- Two reconciliations for a new machine.  The first creates the account; before it stores the password the
    second finds no secret, and gives the account a password of its own. -/
def twoAtOnce : Pool Bool actions (Except Failure CredentialOutcome) Systems :=
  race default "tenant-a" sharedSvm twoSources
    [false, false, false, true, true, true, true, true, true, true, false, true] Fleet.untouched

/-- Both reconciliations are over, the secret has the password of the first, and the account has the
    password of the second. -/
theorem twoAtOnce_disagree :
    secretPassword default "tenant-a" Fleet.untouched = none ∧
      (twoAtOnce.programs false).isDone = true ∧ (twoAtOnce.programs true).isDone = true ∧
      secretPassword default "tenant-a" twoAtOnce.state = some "first" ∧
      adminPassword default "uuid-a" twoAtOnce.state = some "second" := by
  decide +kernel

theorem agree_iff_of_twoAtOnce :
    ∃ i j stored given,
      Pool.lastOf (secretWrite? (secretKey default "tenant-a")) twoAtOnce.log = some (i, stored) ∧
      Pool.lastOf (accountWrite? (adminKey default "uuid-a")) twoAtOnce.log = some (j, given) ∧
      (adminPassword default "uuid-a" twoAtOnce.state = some "first" ↔
        lastHandedOut i twoAtOnce.log = lastHandedOut j twoAtOnce.log) := by
  have hfaultless : ∀ second n, (twoSources second n).Faultless := fun _ _ => rfl
  have huuid : ∀ second, (sharedSvm second).uuid = some "uuid-a" := fun _ => rfl
  have hstored : secretPassword default "tenant-a" twoAtOnce.state = some "first" := by
    decide +kernel
  exact agree_iff_of_race hfaultless huuid rfl _ hstored

end Race

end Provision

end TenantStorage
