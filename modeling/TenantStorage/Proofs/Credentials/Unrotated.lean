import TenantStorage.Proofs.Credentials.Race

namespace TenantStorage.Provision

open Systems

/-!
# Any number of reconciliations at the same time, without rotation

Where the settings do not allow to replace a lost password, an account gets its password when it is created and
keeps it.  A run stores only a password with which the controller told it that it has created the account, so
what is stored is the account's whoever else is at work, and whatever befalls the calls.

* `Lasting` — passwords that are there stay.
* `CarefulStep` — what a run may ask when it was told so much; `careful_reconcile` says that it asks nothing else.
* `CarefulStep.lasting`, `CarefulStep.agrees` — what such a step does to the systems.
* `Fleet.crowd` — runs for the projects of a fleet that take turns.
* `Fleet.agreement_of_crowd` — secrets agree with accounts at all times, and no password changes.
-/

/-! ### Passwords that stay -/

/-- Accounts keep their passwords, and so do secrets that have one. -/
structure Lasting (s s' : Systems) : Prop where
  account : ∀ ownerUuid username password,
    s.controller.passwordOf ownerUuid username = some password →
      s'.controller.passwordOf ownerUuid username = some password
  secret : ∀ ns name password,
    s.secrets.passwordAt ns name = some password → s'.secrets.passwordAt ns name = some password

theorem Lasting.refl (s : Systems) : Lasting s s := ⟨fun _ _ _ => id, fun _ _ _ => id⟩

theorem Lasting.trans {s s' s'' : Systems} (h : Lasting s s') (h' : Lasting s' s'') :
    Lasting s s'' where
  account _ _ _ hpassword := h'.account _ _ _ (h.account _ _ _ hpassword)
  secret _ _ _ hpassword := h'.secret _ _ _ (h.secret _ _ _ hpassword)

/-! ### What a run asks -/

/-- The password with which a run was told last that it has written the account of a machine. -/
def lastGiven (engine : Settings.Engine) (uuid : String) (history : List (Program.Reply actions)) :
    Option String :=
  history.findSome? (accountWrite? (adminKey engine uuid))

/-- What a run that never replaces a password may ask after a history: it creates the account of its machine,
    and stores the password that it was told the account has. -/
inductive CarefulStep (engine : Settings.Engine) (project : String) (uuid? : Option String)
    (history : List (Program.Reply actions)) : Action → Prop where
  | quiet {action : Action} (haccount : action.account? = none) (hsecret : action.secret? = none) :
      CarefulStep engine project uuid? history action
  | opens {order : Account.Order} (howner : uuid? = some order.ownerUuid)
      (husername : order.credentials.username = engine.adminUsername) :
      CarefulStep engine project uuid? history (.call (.controller (.createAccount order)))
  | stores {uuid : String} {record : SecretRecord} {call : SecretCall}
      (hcall : call = .create record ∨ call = .replace record)
      (hplace : MemorySecrets.keyOf record = secretKey engine project) (howner : uuid? = some uuid)
      (hgiven : lastGiven engine uuid history = some record.credentials.password) :
      CarefulStep engine project uuid? history (.call (.secrets call))

/-- Histories whose last step was a `CarefulStep`. -/
def Careful (engine : Settings.Engine) (project : String) (uuid? : Option String) :
    List (Program.Reply actions) → Prop
  | [] => True
  | reply :: history => CarefulStep engine project uuid? history reply.op

/-- The promise that every history is `Careful`. -/
def carefully (engine : Settings.Engine) (project : String) (uuid? : Option String) :
    Program.Conduct actions (List (Program.Reply actions)) :=
  fun _ _ _ history' => Careful engine project uuid? history'

section History

variable {engine : Settings.Engine} {project uuid : String} {uuid? : Option String}
  {history : List (Program.Reply actions)}

/-- The account is created with the password that is returned. -/
theorem careful_createAccount :
    Program.Ensures Program.recorded (carefully engine project (some uuid))
      (fun result history' => ∀ fresh, result = .ok (some fresh) →
        lastGiven engine uuid history' = some fresh)
      (createAccount engine uuid).run history := by
  unfold createAccount
  rw [ExceptT.run_mk, Program.ensures_bind]
  refine recorded_password fun fresh => ⟨.quiet rfl rfl, ?_⟩
  rw [Program.ensures_bind]
  refine recorded_call fun answer => ⟨.opens rfl rfl, ?_⟩
  cases answer with
  | ok value =>
    rintro _ ⟨⟩
    have hwrite : accountWrite? (adminKey engine uuid) ⟨.call (.controller (.createAccount
      ⟨uuid, engine.adminRole, ⟨engine.adminUsername, fresh⟩⟩)), .ok value⟩ = some fresh := if_pos rfl
    rw [lastGiven, List.findSome?_cons, hwrite]
  | error failure =>
    simp only
    split <;> rintro _ ⟨⟩

/-- Without the permission to rotate no password is replaced. -/
theorem careful_rotatePassword (hrotate : engine.rotateOnMissingSecret = false) (svmName : String) :
    Program.Ensures Program.recorded (carefully engine project uuid?)
      (fun result _ => ∀ fresh, result ≠ .ok fresh) (rotatePassword engine svmName uuid).run history := by
  unfold rotatePassword
  refine Program.Ensures.attempt (fun _ _ => True) ?_ ?_ (fun _ _ _ _ herror => by cases herror)
  · exact recorded_call fun answer => ⟨.quiet rfl rfl, trivial⟩
  · intro found history' _
    cases found with
    | none => rintro _ ⟨⟩
    | some account =>
      simp only [hrotate]
      rintro _ ⟨⟩

theorem careful_ensureAccount (hrotate : engine.rotateOnMissingSecret = false) (svmName : String) :
    Program.Ensures Program.recorded (carefully engine project (some uuid))
      (fun result history' => ∀ fresh rotated, result = .ok (fresh, rotated) →
        lastGiven engine uuid history' = some fresh)
      (ensureAccount engine svmName uuid).run history := by
  unfold ensureAccount
  refine Program.Ensures.attempt _ careful_createAccount ?_ (fun _ _ _ _ _ herror => by cases herror)
  intro found history' hcreated
  match found with
  | some fresh =>
    intro _ rotated hok
    cases hok
    exact hcreated fresh rfl
  | none =>
    refine Program.Ensures.attempt _ (careful_rotatePassword hrotate svmName) ?_
      (fun _ _ _ _ _ herror => by cases herror)
    intro fresh history'' hrotated
    exact absurd rfl (hrotated fresh)

theorem careful_writeSecret {record : SecretRecord} (stale : Bool)
    (hplace : MemorySecrets.keyOf record = secretKey engine project)
    (hgiven : lastGiven engine uuid history = some record.credentials.password) :
    Program.Ensures Program.recorded (carefully engine project (some uuid)) (fun _ _ => True)
      (writeSecret stale record).run history := by
  unfold writeSecret
  split
  · exact recorded_call fun answer => ⟨.stores (.inr rfl) hplace rfl hgiven, trivial⟩
  · exact recorded_call fun answer => ⟨.stores (.inl rfl) hplace rfl hgiven, trivial⟩

/-- Without rotation a reconciliation creates the account and stores the password that it created it with,
    whatever it is told. -/
theorem careful_reconcile (hrotate : engine.rotateOnMissingSecret = false) (project : String) (svm : Svm) :
    Program.Disciplined (reconcile engine project svm).run (Careful engine project svm.uuid) [] := by
  rw [Program.Disciplined, reconcile]
  refine Program.Ensures.attempt (fun _ _ => True) ?_ ?_ (fun _ _ _ => trivial)
  · rintro answer _ rfl
    exact ⟨CarefulStep.quiet rfl rfl, trivial⟩
  · intro existing history _
    cases existing.filter (·.credentials.hasPassword) with
    | some record => trivial
    | none =>
      refine Program.Ensures.check ?_ (fun _ _ => trivial)
      intro uuid huuid
      rw [requireUuid_eq_ok_iff.1 huuid]
      refine Program.Ensures.attempt _ (careful_ensureAccount hrotate svm.name) ?_ (fun _ _ _ => trivial)
      rintro ⟨fresh, rotated⟩ history' hgiven
      exact Program.Ensures.attempt _
        (careful_writeSecret existing.isSome rfl (hgiven fresh rotated rfl))
        (fun _ _ _ => trivial) (fun _ _ _ => trivial)

end History

/-! ### What a step does -/

section Step

variable {engine : Settings.Engine} {project uuid : String} {uuid? : Option String}
  {history : List (Program.Reply actions)} {action : Action} {s : Systems}

/-- The account of a machine has the password with which a run was told that it has written it. -/
def Holds (engine : Settings.Engine) (uuid? : Option String) (history : List (Program.Reply actions))
    (s : Systems) : Prop :=
  ∀ uuid password, uuid? = some uuid → lastGiven engine uuid history = some password →
    adminPassword engine uuid s = some password

/-- What a run holds it still holds when the accounts have kept their passwords. -/
theorem Holds.lasting {s' : Systems} (h : Holds engine uuid? history s) (hlasting : Lasting s s') :
    Holds engine uuid? history s' :=
  fun uuid password huuid hgiven => hlasting.account _ _ _ (h uuid password huuid hgiven)

/-- Agreement depends on the accounts' passwords staying, and on the secret. -/
theorem Agrees.lasting {s' : Systems} (h : Agrees engine project uuid? s) (hlasting : Lasting s s')
    (hsecret : secretPassword engine project s' = secretPassword engine project s) :
    Agrees engine project uuid? s' := by
  intro password hpassword
  obtain ⟨uuid, huuid, hadmin⟩ := h password (hsecret.symm.trans hpassword)
  exact ⟨uuid, huuid, hlasting.account _ _ _ hadmin⟩

/-- A careful step writes no secret but that of the project. -/
theorem CarefulStep.secret (h : CarefulStep engine project uuid? history action) {key : KeyPair}
    (hkey : action.secret? = some key) : key = secretKey engine project := by
  cases h with
  | quiet _ hsecret => cases hsecret.symm.trans hkey
  | opens _ _ => cases hkey
  | stores hcall hplace _ _ =>
    rw [← hplace]
    rcases hcall with rfl | rfl <;> exact (Option.some.inj hkey).symm

/-- After a write of the secret its password is the one that was written, or the one that was there. -/
theorem passwordAt_stores {record : SecretRecord} {call : SecretCall}
    (hcall : call = .create record ∨ call = .replace record) (turn : Turn) (s : Systems) :
    let after := (s.answer turn (.call (.secrets call))).2
    after.secrets.passwordAt record.ns record.name =
        (some record.credentials.password).filter (· != "") ∨
      after.secrets.passwordAt record.ns record.name = s.secrets.passwordAt record.ns record.name := by
  refine secrets_answer_of turn (.call (.secrets call)) (p := fun m =>
    m.passwordAt record.ns record.name = (some record.credentials.password).filter (· != "") ∨
      m.passwordAt record.ns record.name = s.secrets.passwordAt record.ns record.name) (.inr rfl) ?_
  rintro _ ⟨⟩
  rcases MemorySecrets.stored_of_write hcall with ⟨-, hstored⟩ | ⟨-, hstored⟩
  · exact .inl (MemorySecrets.passwordAt_of_stored hstored)
  · exact .inr (MemorySecrets.passwordAt_eq_of_stored hstored)

/-- **A careful step keeps every password**, and keeps the secret of its project in agreement. -/
theorem CarefulStep.lasting (h : CarefulStep engine project uuid? history action)
    (hholds : Holds engine uuid? history s) (hagrees : Agrees engine project uuid? s) (turn : Turn) :
    Lasting s (s.answer turn action).2 ∧ Agrees engine project uuid? (s.answer turn action).2 := by
  cases h with
  | quiet haccount hsecret =>
    have hlasting : Lasting s (s.answer turn action).2 := {
      account := fun _ _ _ hpassword => (MemoryController.passwordOf_eq_of_find?
        (find?_accounts_answer turn action (by simp [haccount]))).trans hpassword
      secret := fun _ _ _ hpassword => (MemorySecrets.passwordAt_eq_of_stored
        (find?_records_answer turn action (by simp [hsecret]))).trans hpassword }
    refine ⟨hlasting, hagrees.lasting hlasting ?_⟩
    exact MemorySecrets.passwordAt_eq_of_stored (find?_records_answer turn action (by simp [hsecret]))
  | @opens order howner husername =>
    have hsecrets := attend_controller_secrets turn.mishap (.createAccount order) s
    have hlasting : Lasting s (s.attend turn.mishap (.controller (.createAccount order))).2 := {
      account := fun _ _ _ hpassword =>
        controller_answer_of turn (.call (.controller (.createAccount order)))
          (p := fun c => c.passwordOf _ _ = some _) hpassword (by
            rintro _ ⟨⟩
            exact MemoryController.passwordOf_createAccount_of_some hpassword order)
      secret := fun _ _ _ hpassword => by rw [hsecrets]; exact hpassword }
    exact ⟨hlasting, hagrees.lasting hlasting
      (congrArg (fun m : MemorySecrets => m.passwordAt _ _) hsecrets)⟩
  | @stores uuid record call hcall hplace howner hgiven =>
    have hcontroller : (s.answer turn (.call (.secrets call))).2.controller = s.controller :=
      attend_secrets_controller turn.mishap call s
    have haccount : adminPassword engine uuid s = some record.credentials.password :=
      hholds uuid _ howner hgiven
    obtain ⟨hns, hname⟩ := KeyPair.mk.inj hplace
    have hstored := passwordAt_stores hcall turn s
    rw [hns, hname] at hstored
    refine ⟨⟨fun _ _ _ hpassword => by rw [hcontroller]; exact hpassword, ?_⟩, ?_⟩
    · intro ns name password hpassword
      by_cases hkey : secretKey engine project = ⟨ns, name⟩
      · obtain ⟨rfl, rfl⟩ := KeyPair.mk.inj hkey
        rcases hstored with hstored | hstored
        -- a password that is overwritten is the account's, and so is the one that is written
        · obtain ⟨owner, howner', hadmin⟩ := hagrees password hpassword
          cases howner.symm.trans howner'
          cases haccount.symm.trans hadmin
          rw [hstored, MemorySecrets.filter_of_passwordAt hpassword]
        · exact hstored.trans hpassword
      · refine (MemorySecrets.passwordAt_eq_of_stored (find?_records_answer turn _ ?_)).trans hpassword
        exact fun hsecret => hkey (CarefulStep.secret (.stores hcall hplace howner hgiven) hsecret).symm
    · rcases hstored with hstored | hstored
      · intro password hpassword
        obtain ⟨hwritten, -⟩ := Option.filter_eq_some_iff.1 (hstored.symm.trans hpassword)
        refine ⟨uuid, howner, ?_⟩
        rw [adminPassword, hcontroller, ← hwritten]
        exact haccount
      · exact hagrees.congr hstored fun _ _ => by rw [adminPassword, hcontroller]; rfl

/-- A call that was reported as successful has succeeded, and has taken effect. -/
theorem answer_of_taken {turn : Turn} {call : Call}
    (h : taken? ⟨action, (s.answer turn action).1⟩ = some call) :
    (∃ value, (s.perform call).1 = .ok value) ∧ (s.answer turn action).2 = (s.perform call).2.tick := by
  cases action with
  | call c =>
    rw [answer] at h ⊢
    cases hanswer : (s.attend turn.mishap c).1 with
    | ok value =>
      rw [hanswer] at h
      cases h
      exact ⟨⟨value, (attend_of_ok hanswer).1⟩, (attend_of_ok hanswer).2⟩
    | error failure =>
      rw [hanswer] at h
      cases h
  | watch c =>
    rw [answer] at h ⊢
    split at h
    · cases h
    · rename_i hgoing
      rw [if_neg hgoing]
      cases hanswer : (s.attend turn.mishap c).1 with
      | ok value =>
        simp only [hanswer, taken?, Option.some.injEq] at h
        cases h
        exact ⟨⟨value, (attend_of_ok hanswer).1⟩, (attend_of_ok hanswer).2⟩
      | error failure =>
        simp only [hanswer] at h
        cases h
  | pause _ | cancelled | password | count _ => cases h

/-- An account that was reported as written has the password that was written. -/
theorem adminPassword_of_accountWrite {turn : Turn} {password : String}
    (h : accountWrite? (adminKey engine uuid) ⟨action, (s.answer turn action).1⟩ = some password) :
    adminPassword engine uuid (s.answer turn action).2 = some password := by
  obtain ⟨call, htaken, hcall⟩ := Option.bind_eq_some_iff.1 h
  obtain ⟨⟨value, hvalue⟩, hafter⟩ := answer_of_taken htaken
  rw [hafter]
  cases call with
  | controller call =>
    have hok : (s.controller.perform call).1 = .ok value := hvalue
    have hperform := MemoryController.passwordOf_perform call (adminKey engine uuid) s.controller
    rw [hok, hcall] at hperform
    exact hperform
  | secrets call => cases hcall

/-- A run holds what it was told last. -/
theorem CarefulStep.holds (h : CarefulStep engine project uuid? history action)
    (hholds : Holds engine uuid? history s) (hagrees : Agrees engine project uuid? s) (turn : Turn) :
    Holds engine uuid? (⟨action, (s.answer turn action).1⟩ :: history) (s.answer turn action).2 := by
  intro uuid password huuid hgiven
  rw [lastGiven, List.findSome?_cons] at hgiven
  split at hgiven
  · rename_i written hwritten
    cases hgiven
    exact adminPassword_of_accountWrite hwritten
  · exact (h.lasting hholds hagrees turn).1.account _ _ _ (hholds uuid password huuid hgiven)

end Step

/-! ### Runs that take turns -/

namespace Fleet

section Crowd

variable {ι : Type} [DecidableEq ι] {fleet : Fleet} {engine : Settings.Engine} {s : Systems}

/-- Runs for the projects of a fleet, one for each `i`, that share both systems and take turns as a schedule
    says.  Something else may befall each of them. -/
def crowd (engine : Settings.Engine) (runs : ι → fleet.Run) (schedule : List ι) (s : Systems) :
    Pool ι actions (Except Failure CredentialOutcome) Systems :=
  Pool.run (fun i => handle (runs i).course) schedule
    { programs := fun i => (reconcile engine (runs i).project (runs i).svm).run, state := s, log := [] }

/-- The secrets agree with the accounts, and every run holds what it was told. -/
structure Settled (engine : Settings.Engine) (runs : ι → fleet.Run) (s : Systems)
    (log : List (ι × Program.Reply actions)) : Prop where
  good : fleet.Good engine s
  holds : ∀ i, Holds engine (runs i).svm.uuid (Pool.historyOf i log) s

/-- What a run for a machine of the fleet may ask leaves all passwords alone and everything settled. -/
theorem Settled.cons {runs : ι → fleet.Run} {log : List (ι × Program.Reply actions)}
    (hvalid : engine.validate = .ok ()) (h : Settled engine runs s log) {i : ι} {action : Action}
    (hstep : CarefulStep engine (runs i).project (runs i).svm.uuid (Pool.historyOf i log) action)
    (turn : Turn) :
    Lasting s (s.answer turn action).2 ∧
      Settled engine runs (s.answer turn action).2 ((i, ⟨action, (s.answer turn action).1⟩) :: log) := by
  obtain ⟨known, hknown, hshown⟩ := (runs i).member
  have hagrees : Agrees engine (runs i).project (runs i).svm.uuid s := hshown ▸ h.good _ _ hknown
  obtain ⟨hlasting, hagrees'⟩ := hstep.lasting (h.holds i) hagrees turn
  refine ⟨hlasting, ⟨fun project svm hsvm => ?_, fun j => ?_⟩⟩
  -- the run's own project by what the step does, the others because it writes no secret of theirs
  · by_cases hproject : project = (runs i).project
    · subst hproject
      cases hknown.symm.trans hsvm
      rw [← hshown]
      exact hagrees'
    · refine (h.good project svm hsvm).lasting hlasting ?_
      refine MemorySecrets.passwordAt_eq_of_stored (find?_records_answer turn action fun hsecret => ?_)
      have hname := congrArg KeyPair.second (hstep.secret hsecret)
      exact hproject (Settings.Engine.secretName_injective hvalid hname)
  · by_cases hj : i = j
    · subst hj
      rw [Pool.historyOf_cons_self]
      exact hstep.holds (h.holds i) hagrees turn
    · rw [Pool.historyOf_cons_of_ne hj]
      exact (h.holds j).lasting hlasting

/-- Runs that are settled stay so, and keep every password. -/
theorem Settled.run (hvalid : engine.validate = .ok ()) {runs : ι → fleet.Run}
    {pool : Pool ι actions (Except Failure CredentialOutcome) Systems}
    (horder : pool.InOrder fun i => Careful engine (runs i).project (runs i).svm.uuid)
    (h : Settled engine runs pool.state pool.log) (schedule : List ι) :
    let after := pool.run (fun i => handle (runs i).course) schedule
    (after.InOrder fun i => Careful engine (runs i).project (runs i).svm.uuid) ∧
      Settled engine runs after.state after.log ∧ Lasting pool.state after.state := by
  refine Pool.run_inOrder (fun s log => Settled engine runs s log ∧ Lasting pool.state s) ?_ schedule
    horder ⟨h, .refl _⟩
  rintro i action s log hcareful ⟨hsettled, hlasting⟩
  have hstep := hcareful (handle (runs i).course action s).1
  obtain ⟨hlasting', hsettled'⟩ := hsettled.cons hvalid hstep ((runs i).course s.turn)
  exact ⟨hsettled', hlasting.trans hlasting'⟩

/-- **Agreement under any concurrency, without rotation.**  However runs for the projects of a fleet take turns,
    and whatever befalls their calls, at any time the secrets agree with the accounts; and from any time to
    any later one no account and no secret with a password has got another. -/
theorem agreement_of_crowd (hvalid : engine.validate = .ok ())
    (hrotate : engine.rotateOnMissingSecret = false) (hgood : fleet.Good engine s)
    (runs : ι → fleet.Run) (earlier later : List ι) :
    fleet.Good engine (crowd engine runs (earlier ++ later) s).state ∧
      Lasting (crowd engine runs earlier s).state (crowd engine runs (earlier ++ later) s).state := by
  have hstart : Settled engine runs (crowd engine runs [] s).state (crowd engine runs [] s).log :=
    ⟨hgood, by rintro i uuid password - ⟨⟩⟩
  have hcareful : (crowd engine runs [] s).InOrder fun i =>
      Careful engine (runs i).project (runs i).svm.uuid :=
    fun i => ⟨trivial, careful_reconcile hrotate (runs i).project (runs i).svm⟩
  obtain ⟨horder, hsettled, -⟩ := hstart.run hvalid hcareful earlier
  obtain ⟨-, hsettled', hlasting⟩ := hsettled.run hvalid horder later
  have hthen : crowd engine runs (earlier ++ later) s = (crowd engine runs earlier s).run _ later :=
    List.foldl_append
  rw [hthen]
  exact ⟨hsettled'.good, hlasting⟩

/-- The default settings, without the permission to replace a password. -/
def keeping : Settings.Engine := { (default : Settings.Engine) with rotateOnMissingSecret := false }

/-- Systems with an empty secret for the first of two projects. -/
def stale : Systems :=
  { untouched with
    secrets := MemorySecrets.empty.withSecret
      (projectSecret keeping "tenant-a" ⟨keeping.adminUsername, ""⟩) }

/-- Three runs, two of them for the first project.  Each has passwords of its own, and the call that is the
    eleventh of all is reported as failed after it took effect. -/
def threeRuns (i : Fin 3) : pair.Run where
  project := if i = 2 then "tenant-b" else "tenant-a"
  svm := if i = 2 then ⟨"tenant-b", some "uuid-b", .running, true, []⟩
    else ⟨"tenant-a", some "uuid-a", .running, true, []⟩
  course := fun turn =>
    ⟨if turn = 10 then some (.after default) else none, false, if i = 0 then "first" else "other"⟩
  member := by
    by_cases h : i = 2
    · simp [h, pair]
    · simp [h, pair]

/-- All runs have looked at the secrets before the first one creates the account that both want; the
    second one then gives up. -/
def threeEarlier : List (Fin 3) := [0, 1, 2, 0, 0, 1, 1, 1, 2]

/-- The first run fills in the empty secret, and is told that it failed to. -/
def threeLater : List (Fin 3) := [2, 0, 2]

theorem agreement_of_threeRuns :
    keeping.validate = .ok () ∧ keeping.rotateOnMissingSecret = false ∧ pair.Good keeping stale ∧
      pair.Good keeping (crowd keeping threeRuns (threeEarlier ++ threeLater) stale).state ∧
      Lasting (crowd keeping threeRuns threeEarlier stale).state
        (crowd keeping threeRuns (threeEarlier ++ threeLater) stale).state ∧
      adminPassword keeping "uuid-a" (crowd keeping threeRuns threeEarlier stale).state = some "first" ∧
      secretPassword keeping "tenant-a"
        (crowd keeping threeRuns (threeEarlier ++ threeLater) stale).state = some "first" ∧
      secretPassword keeping "tenant-b"
        (crowd keeping threeRuns (threeEarlier ++ threeLater) stale).state = some "other" := by
  have hvalid : keeping.validate = .ok () := by rfl
  have hgood : pair.Good keeping stale := by
    intro project svm hsvm
    have hmember : project = "tenant-a" ∨ project = "tenant-b" := by
      simp only [pair] at hsvm
      grind
    refine .of_empty ?_
    rcases hmember with rfl | rfl <;> decide +kernel
  obtain ⟨hafter, hlasting⟩ := agreement_of_crowd hvalid rfl hgood threeRuns threeEarlier threeLater
  exact ⟨hvalid, rfl, hgood, hafter, hlasting, by decide +kernel, by decide +kernel, by decide +kernel⟩

end Crowd

end Fleet

end TenantStorage.Provision
