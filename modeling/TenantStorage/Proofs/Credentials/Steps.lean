import TenantStorage.Proofs.Memory.Passwords
import TenantStorage.Provision.Credentials

namespace TenantStorage.Provision

open Systems

/-!
# What each step of a reconciliation does

One statement for each part of `reconcile`, in both systems in memory, whatever befalls its calls.

* `CredentialStep` — what a step may write, and when: the account only while the secret has no password.
* `Agrees` — the secret of a project has no password, or the account has the same.
* `ensures_createAccount`, `ensures_rotatePassword`, `ensures_writeSecret`, … — the parts.
* `ensures_reconcile` — the whole: agreement is kept, and reached when nothing goes wrong.
-/

variable (engine : Settings.Engine) (project : String)

/-- The secret of a project. -/
def storedSecret (s : Systems) : Option SecretRecord :=
  s.secrets.stored engine.secretNamespace (engine.secretName project)

/-- The password in the secret of a project, if there is one. -/
def secretPassword (s : Systems) : Option String :=
  s.secrets.passwordAt engine.secretNamespace (engine.secretName project)

/-- The password of the administrative account of a machine. -/
def adminPassword (uuid : String) (s : Systems) : Option String :=
  s.controller.passwordOf uuid engine.adminUsername

/-- The place of a project's secret. -/
def secretKey : KeyPair := ⟨engine.secretNamespace, engine.secretName project⟩

/-- The secret of a project has no password, or the account of its machine has the same. -/
def Agrees (uuid? : Option String) (s : Systems) : Prop :=
  ∀ password, secretPassword engine project s = some password →
    ∃ uuid, uuid? = some uuid ∧ adminPassword engine uuid s = some password

variable {engine project}

theorem secretPassword_eq (s : Systems) : secretPassword engine project s =
    ((storedSecret engine project s).filter (·.credentials.hasPassword)).map (·.credentials.password) :=
  rfl

/-- A secret without a password agrees with everything. -/
theorem Agrees.of_empty {uuid? : Option String} {s : Systems}
    (h : secretPassword engine project s = none) : Agrees engine project uuid? s := by
  intro password hpassword
  cases h.symm.trans hpassword

/-- Agreement depends on the secret and on the account only. -/
theorem Agrees.congr {uuid? : Option String} {s s' : Systems} (h : Agrees engine project uuid? s)
    (hsecret : secretPassword engine project s' = secretPassword engine project s)
    (haccount : ∀ uuid, uuid? = some uuid → adminPassword engine uuid s' = adminPassword engine uuid s) :
    Agrees engine project uuid? s' := by
  intro password hpassword
  obtain ⟨uuid, huuid, hadmin⟩ := h password (hsecret.symm.trans hpassword)
  exact ⟨uuid, huuid, (haccount uuid huuid).trans hadmin⟩

variable (engine project)

/-- What a step may write while a project's credentials are reconciled. -/
structure CredentialStep (uuid? : Option String) (action : Action) (s : Systems) : Prop where
  /-- Only the administrative account of the machine, and only while the secret has no password. -/
  account : ∀ key, action.account? = some key →
    uuid? = some key.first ∧ key.second = engine.adminUsername ∧ secretPassword engine project s = none
  /-- Only the secret of the project. -/
  secret : ∀ key, action.secret? = some key → key = secretKey engine project
  /-- Neither machines nor interfaces. -/
  part : ∀ part, action.part? = some part → part = .accounts

/-- The promise that every step is a `CredentialStep`. -/
def credentialSteps (uuid? : Option String) : Program.Conduct actions Systems :=
  fun action s _ _ => CredentialStep engine project uuid? action s

variable {engine project}

/-- An action that writes nothing. -/
theorem CredentialStep.of_quiet {uuid? : Option String} {action : Action} {s : Systems}
    (haccount : action.account? = none) (hsecret : action.secret? = none)
    (hpart : action.part? = none) : CredentialStep engine project uuid? action s := by
  constructor <;> simp_all

/-- A step that writes the administrative account while the secret has no password. -/
theorem CredentialStep.of_account {uuid : String} {call : ControllerCall} {s : Systems}
    (haccount : call.account? = some ⟨uuid, engine.adminUsername⟩)
    (hempty : secretPassword engine project s = none) :
    CredentialStep engine project (some uuid) (.call (.controller call)) s where
  account := by
    intro key hkey
    obtain rfl : _ = key := Option.some.inj (haccount.symm.trans hkey)
    exact ⟨rfl, rfl, hempty⟩
  secret := by rintro key ⟨⟩
  part := by
    intro part hpart
    cases call <;> simp_all [ControllerCall.account?, ControllerCall.part?, Action.part?,
      Action.controllerCall?, Action.call?]

/-- A step that writes the secret of the project. -/
theorem CredentialStep.of_secret {uuid? : Option String} {call : SecretCall} {s : Systems}
    (hsecret : ∀ key, call.secret? = some key → key = secretKey engine project) :
    CredentialStep engine project uuid? (.call (.secrets call)) s where
  account := by rintro key ⟨⟩
  secret := hsecret
  part := by rintro part ⟨⟩

variable {T : Turn → Prop} {uuid : String}

/-! ### The account -/

/-- What the creation of an account comes to. -/
structure Created (T : Turn → Prop) (engine : Settings.Engine) (uuid : String) (s : Systems)
    (result : Except Failure (Option String)) (s' : Systems) : Prop where
  secrets : s'.secrets = s.secrets
  /-- A password that is returned is new, and it is the account's. -/
  fresh : ∀ password, result = .ok (some password) →
    adminPassword engine uuid s' = some password ∧ ∃ turn, T turn ∧ turn.password = password
  /-- When nothing goes wrong the account is created or was there. -/
  settled : (∀ turn, T turn → turn.Faultless) → ∃ found, result = .ok found ∧
    (found = none → (adminPassword engine uuid s').isSome = true)

theorem ensures_createAccount {s : Systems} (hempty : secretPassword engine project s = none) :
    Program.Ensures (conduct T) (credentialSteps engine project (some uuid))
      (Created T engine uuid s) (createAccount engine uuid).run s := by
  unfold createAccount
  rw [ExceptT.run_mk, Program.ensures_bind]
  refine ensures_password fun turn hturn => ⟨.of_quiet rfl rfl rfl, ?_⟩
  rw [Program.ensures_bind]
  refine ensures_call fun turn' hturn' => ⟨.of_account rfl hempty, ?_⟩
  generalize horder : (⟨uuid, engine.adminRole, ⟨engine.adminUsername, turn.password⟩⟩ :
    Account.Order) = order
  -- an answer of success comes with the effect; a failure may come with it or without it
  cases hanswer : (attend turn'.mishap (.controller (.createAccount order)) s.tick).1 with
  | ok value =>
    obtain ⟨hok, hafter⟩ := attend_of_ok hanswer
    have hwritten := MemoryController.passwordOf_of_createAccount hok
    rw [hafter]
    subst horder
    exact {
      secrets := rfl
      fresh := by
        intro password hok
        cases hok
        exact ⟨hwritten, turn, hturn, rfl⟩
      settled := fun _ => ⟨_, rfl, by simp⟩ }
  | error failure =>
    have hsecrets : (attend turn'.mishap (.controller (.createAccount order)) s.tick).2.secrets =
      s.secrets := attend_controller_secrets _ _ _
    -- without a mishap the only failure is that the account exists.
    have hexists (hcalm : ∀ turn, T turn → turn.Faultless) : failure.isAlreadyExists = true ∧
        (adminPassword engine uuid
          (attend turn'.mishap (.controller (.createAccount order)) s.tick).2).isSome = true := by
      subst horder
      rw [hcalm turn' hturn'] at hanswer ⊢
      rcases MemoryController.createAccount_cases
        ⟨uuid, engine.adminRole, ⟨engine.adminUsername, turn.password⟩⟩ s.controller with
        hok | ⟨failure', hfailure, hkind, hthere⟩
      · cases hok.symm.trans hanswer
      · obtain rfl : failure' = failure := Except.error.inj (hfailure.symm.trans hanswer)
        exact ⟨hkind, hthere⟩
    by_cases hkind : failure.isAlreadyExists = true
    · simp only [hkind, if_true]
      exact {
        secrets := hsecrets
        fresh := by rintro password ⟨⟩
        settled := fun hcalm => ⟨none, rfl, fun _ => (hexists hcalm).2⟩ }
    · simp only [hkind]
      exact {
        secrets := hsecrets
        fresh := by rintro password ⟨⟩
        settled := fun hcalm => absurd (hexists hcalm).1 hkind }

/-- A password that one of the turns handed out, and that is the account's. -/
structure FreshPassword (T : Turn → Prop) (engine : Settings.Engine) (uuid password : String)
    (s : Systems) : Prop where
  account : adminPassword engine uuid s = some password
  handedOut : ∃ turn, T turn ∧ turn.password = password

/-- The account of a machine does not notice a call that does not write it. -/
theorem adminPassword_attend {turn : Turn} {call : ControllerCall} {s : Systems}
    (h : call.account? ≠ some ⟨uuid, engine.adminUsername⟩) :
    adminPassword engine uuid (s.attend turn.mishap (.controller call)).2 =
      adminPassword engine uuid s :=
  MemoryController.passwordOf_eq_of_find? (find?_accounts_answer turn (.call (.controller call)) h)

/-- Looking at the account. -/
theorem ensures_account (s : Systems) :
    Program.Ensures (conduct T) (credentialSteps engine project (some uuid))
      (fun result s' => s'.secrets = s.secrets ∧
        adminPassword engine uuid s' = adminPassword engine uuid s ∧
        ((∀ turn, T turn → turn.Faultless) → (adminPassword engine uuid s).isSome = true →
          ∃ account, result = .ok (some account)))
      (Engine.controller (.account uuid engine.adminUsername)).run s := by
  refine ensures_call fun turn hturn => ⟨.of_quiet rfl rfl rfl, ?_, ?_, ?_⟩
  · exact attend_controller_secrets _ _ _
  · exact adminPassword_attend (by rintro ⟨⟩)
  · intro hcalm hthere
    rw [attend_of_faultless (hcalm turn hturn)]
    exact MemoryController.account_of_isSome hthere

/-- Setting the password of the account. -/
theorem ensures_setPassword {s : Systems} (password : String)
    (hempty : secretPassword engine project s = none) :
    Program.Ensures (conduct T) (credentialSteps engine project (some uuid))
      (fun result s' => s'.secrets = s.secrets ∧
        (result = .ok () → adminPassword engine uuid s' = some password) ∧
        ((∀ turn, T turn → turn.Faultless) → (adminPassword engine uuid s).isSome = true →
          result = .ok ()))
      (Engine.controller (.setPassword uuid engine.adminUsername password)).run s := by
  refine ensures_call fun turn hturn => ⟨.of_account rfl hempty, ?_, ?_, ?_⟩
  · exact attend_controller_secrets _ _ _
  · intro hresult
    obtain ⟨hok, hafter⟩ := attend_of_ok hresult
    rw [hafter]
    exact MemoryController.passwordOf_of_setPassword hok
  · intro hcalm hthere
    rw [attend_of_faultless (hcalm turn hturn)]
    exact MemoryController.setPassword_of_isSome hthere password

/-- What the rotation of a password comes to. -/
structure Rotated (T : Turn → Prop) (engine : Settings.Engine) (uuid : String) (s : Systems)
    (result : Except Failure String) (s' : Systems) : Prop where
  secrets : s'.secrets = s.secrets
  fresh : ∀ password, result = .ok password → FreshPassword T engine uuid password s'
  /-- When nothing goes wrong the password of an account is replaced, if the settings allow it. -/
  settled : (∀ turn, T turn → turn.Faultless) → engine.rotateOnMissingSecret = true →
    (adminPassword engine uuid s).isSome = true → ∃ password, result = .ok password

/-- The rest of a rotation that has found the account: it gets a fresh password. -/
theorem ensures_refresh {s : Systems} (hempty : secretPassword engine project s = none) :
    Program.Ensures (conduct T) (credentialSteps engine project (some uuid)) (Rotated T engine uuid s)
      (do
        let fresh ← Engine.password
        Engine.controller (.setPassword uuid engine.adminUsername fresh)
        Engine.count .rotation
        return fresh : Attempt String).run s := by
  refine Program.Ensures.lift (ensures_password fun turn hturn => ⟨.of_quiet rfl rfl rfl, ?_⟩)
  have hempty' : secretPassword engine project s.tick = none := hempty
  refine Program.Ensures.attempt _ (ensures_setPassword turn.password hempty') ?_ ?_
  · rintro ⟨⟩ s' ⟨hsecrets, hset, -⟩
    refine Program.Ensures.lift (ensures_count ⟨.of_quiet rfl rfl rfl, ?_⟩)
    exact {
      secrets := hsecrets
      fresh := by
        intro password hok
        cases hok
        exact ⟨hset rfl, turn, hturn, rfl⟩
      settled := fun _ _ _ => ⟨_, rfl⟩ }
  · intro failure s' hpost
    obtain ⟨hsecrets, -, hset⟩ := hpost
    exact {
      secrets := hsecrets
      fresh := by rintro password ⟨⟩
      settled := fun hcalm _ hthere => by cases hset hcalm hthere }

theorem ensures_rotatePassword {s : Systems} (svmName : String)
    (hempty : secretPassword engine project s = none) :
    Program.Ensures (conduct T) (credentialSteps engine project (some uuid))
      (Rotated T engine uuid s) (rotatePassword engine svmName uuid).run s := by
  unfold rotatePassword
  refine Program.Ensures.attempt _ (ensures_account s) ?_ ?_
  · intro found s₁ hpost
    obtain ⟨hsecrets, haccount, hfound⟩ := hpost
    match found with
    | none =>
      exact {
        secrets := hsecrets
        fresh := by rintro password ⟨⟩
        settled := fun hcalm _ hthere => by
          obtain ⟨account, hnone⟩ := hfound hcalm hthere
          cases hnone }
    | some account =>
      -- without the permission to rotate the run ends here and nothing was written
      by_cases hrotate : engine.rotateOnMissingSecret = true
      · simp only [hrotate, Bool.not_true, Bool.false_eq_true, if_false]
        have hempty₁ : secretPassword engine project s₁ = none := by
          rw [secretPassword, hsecrets]
          exact hempty
        refine (ensures_refresh hempty₁).imp fun result s₂ hrotated => ?_
        exact {
          secrets := hrotated.secrets.trans hsecrets
          fresh := hrotated.fresh
          settled := fun hcalm hrotate hthere =>
            hrotated.settled hcalm hrotate ((congrArg _ haccount).trans hthere) }
      · simp only [hrotate]
        exact {
          secrets := hsecrets
          fresh := by rintro password ⟨⟩
          settled := fun _ h _ => absurd h hrotate }
  · intro failure s₁ hpost
    obtain ⟨hsecrets, -, hfound⟩ := hpost
    exact {
      secrets := hsecrets
      fresh := by rintro password ⟨⟩
      settled := fun hcalm _ hthere => by
        obtain ⟨account, herror⟩ := hfound hcalm hthere
        cases herror }

/-- What the first half of a reconciliation comes to. -/
structure Ensured (T : Turn → Prop) (engine : Settings.Engine) (uuid : String) (s : Systems)
    (result : Except Failure (String × Bool)) (s' : Systems) : Prop where
  secrets : s'.secrets = s.secrets
  fresh : ∀ password rotated, result = .ok (password, rotated) →
    FreshPassword T engine uuid password s'
  /-- When nothing goes wrong there is a fresh password, if the settings allow to replace one. -/
  settled : (∀ turn, T turn → turn.Faultless) → engine.rotateOnMissingSecret = true →
    ∃ password, result = .ok password

theorem ensures_ensureAccount {s : Systems} (svmName : String)
    (hempty : secretPassword engine project s = none) :
    Program.Ensures (conduct T) (credentialSteps engine project (some uuid))
      (Ensured T engine uuid s) (ensureAccount engine svmName uuid).run s := by
  unfold ensureAccount
  refine Program.Ensures.attempt _ (ensures_createAccount hempty) ?_ ?_
  · intro found s' hcreated
    match found with
    | some password =>
      exact {
        secrets := hcreated.secrets
        fresh := by
          intro _ rotated hok
          cases hok
          obtain ⟨haccount, hturn⟩ := hcreated.fresh password rfl
          exact ⟨haccount, hturn⟩
        settled := fun _ _ => ⟨_, rfl⟩ }
    | none =>
      have hempty' : secretPassword engine project s' = none := by
        rw [secretPassword, hcreated.secrets]
        exact hempty
      refine Program.Ensures.attempt _ (ensures_rotatePassword svmName hempty') ?_ ?_
      · intro password s'' hrotated
        exact {
          secrets := hrotated.secrets.trans hcreated.secrets
          fresh := by
            intro _ rotated hok
            cases hok
            exact hrotated.fresh password rfl
          settled := fun _ _ => ⟨_, rfl⟩ }
      · intro failure s'' hrotated
        exact {
          secrets := hrotated.secrets.trans hcreated.secrets
          fresh := by rintro _ _ ⟨⟩
          settled := fun hcalm hrotate => by
            obtain ⟨found, hfound, hthere⟩ := hcreated.settled hcalm
            cases hfound
            obtain ⟨password, herror⟩ := hrotated.settled hcalm hrotate (hthere rfl)
            cases herror }
  · intro failure s' hcreated
    exact {
      secrets := hcreated.secrets
      fresh := by rintro _ _ ⟨⟩
      settled := fun hcalm _ => by
        obtain ⟨found, herror, -⟩ := hcreated.settled hcalm
        cases herror }

/-! ### The secret -/

/-- A call that writes the secret has written it, or it has failed and left the secret alone. -/
theorem storedSecret_attend {call : SecretCall} {credentials : Credentials}
    (hcall : call = .create (projectSecret engine project credentials) ∨
      call = .replace (projectSecret engine project credentials))
    (turn : Turn) (s : Systems) :
    storedSecret engine project (s.attend turn.mishap (.secrets call)).2 =
        some (projectSecret engine project credentials) ∨
      (∀ value, (s.attend turn.mishap (.secrets call)).1 ≠ .ok value) ∧
        storedSecret engine project (s.attend turn.mishap (.secrets call)).2 =
          storedSecret engine project s := by
  rcases MemorySecrets.stored_of_write hcall with ⟨-, hstored⟩ | ⟨⟨failure, hfailure⟩, hstored⟩
  -- the call was accepted, and takes effect unless the mishap comes before it
  · match turn.mishap with
    | none => exact .inl hstored
    | some (.before _) => exact .inr ⟨by rintro value ⟨⟩, rfl⟩
    | some (.after _) => exact .inl hstored
  · match turn.mishap with
    | none =>
      refine .inr ⟨fun value hvalue => ?_, hstored⟩
      cases hfailure.symm.trans hvalue
    | some (.before _) => exact .inr ⟨by rintro value ⟨⟩, rfl⟩
    | some (.after _) => exact .inr ⟨by rintro value ⟨⟩, hstored⟩

/-- What the write of the secret comes to. -/
structure Written (T : Turn → Prop) (engine : Settings.Engine) (project : String)
    (credentials : Credentials) (s : Systems) (result : Except Failure Unit) (s' : Systems) : Prop where
  controller : s'.controller = s.controller
  stored : storedSecret engine project s' = some (projectSecret engine project credentials) ∨
    (∀ value, result ≠ .ok value) ∧ storedSecret engine project s' = storedSecret engine project s
  settled : (∀ turn, T turn → turn.Faultless) → result = .ok ()

theorem ensures_writeSecret {uuid? : Option String} (s : Systems) (credentials : Credentials) :
    Program.Ensures (conduct T) (credentialSteps engine project uuid?)
      (Written T engine project credentials s)
      (writeSecret (storedSecret engine project s).isSome
        (projectSecret engine project credentials)).run s := by
  unfold writeSecret
  by_cases hstale : (storedSecret engine project s).isSome = true
  · rw [if_pos hstale]
    refine ensures_call fun turn hturn => ⟨.of_secret (by rintro key ⟨⟩; rfl), ?_, ?_, ?_⟩
    · exact attend_secrets_controller _ _ _
    · exact storedSecret_attend (.inr rfl) turn s
    · intro hcalm
      rw [attend_of_faultless (hcalm turn hturn)]
      exact MemorySecrets.replace_of_isSome hstale
  · rw [if_neg hstale]
    refine ensures_call fun turn hturn => ⟨.of_secret (by rintro key ⟨⟩; rfl), ?_, ?_, ?_⟩
    · exact attend_secrets_controller _ _ _
    · exact storedSecret_attend (.inl rfl) turn s
    · intro hcalm
      rw [attend_of_faultless (hcalm turn hturn)]
      exact MemorySecrets.create_of_none (Option.not_isSome_iff_eq_none.1 hstale)

/-! ### The whole -/

/-- Looking at the secret. -/
theorem ensures_getSecret {uuid? : Option String} (s : Systems) :
    Program.Ensures (conduct T) (credentialSteps engine project uuid?)
      (fun result s' => s'.controller = s.controller ∧
        storedSecret engine project s' = storedSecret engine project s ∧
        (∀ value, result = .ok value → value = storedSecret engine project s) ∧
        ((∀ turn, T turn → turn.Faultless) → ∃ value, result = .ok value))
      (Engine.secrets (.get engine.secretNamespace (engine.secretName project))).run s := by
  refine ensures_call fun turn hturn => ⟨.of_quiet rfl rfl rfl, ?_, ?_, ?_, ?_⟩
  · exact attend_secrets_controller _ _ _
  · exact find?_records_answer turn (.call (.secrets _)) (by rintro ⟨⟩)
  · intro value hvalue
    obtain ⟨hok, -⟩ := attend_of_ok hvalue
    exact (Except.ok.inj hok).symm
  · intro hcalm
    rw [attend_of_faultless (hcalm turn hturn)]
    exact ⟨_, rfl⟩

/-- What a reconciliation comes to. -/
structure Reconciled (T : Turn → Prop) (engine : Settings.Engine) (project : String) (svm : Svm)
    (s : Systems) (result : Except Failure CredentialOutcome) (s' : Systems) : Prop where
  agrees : Agrees engine project svm.uuid s → Agrees engine project svm.uuid s'
  /-- Credentials that are returned are in the secret. -/
  stored : ∀ outcome, result = .ok outcome → (∀ turn, T turn → turn.password ≠ "") →
    ∃ record, storedSecret engine project s' = some record ∧
      record.credentials = outcome.credentials ∧ record.credentials.hasPassword = true
  /-- When nothing goes wrong there are credentials, if the settings allow to replace a password. -/
  settled : (∀ turn, T turn → turn.Faultless) → engine.rotateOnMissingSecret = true →
    svm.uuid.isSome = true → ∃ outcome, result = .ok outcome

/-- A secret that is written with the account's password agrees with it, and so does one that is not
    written after all. -/
theorem Written.agrees {username fresh : String} {s s' : Systems} {result : Except Failure Unit}
    (h : Written T engine project ⟨username, fresh⟩ s result s')
    (haccount : adminPassword engine uuid s = some fresh)
    (hempty : secretPassword engine project s = none) : Agrees engine project (some uuid) s' := by
  -- the secret holds what was written, or what was there before
  rcases h.stored with hstored | ⟨-, hstored⟩
  · intro password hpassword
    have hwritten : password = fresh := by
      rw [secretPassword_eq, hstored] at hpassword
      obtain ⟨record, hrecord, rfl⟩ := Option.map_eq_some_iff.1 hpassword
      obtain ⟨hrecord, -⟩ := Option.filter_eq_some_iff.1 hrecord
      cases hrecord
      rfl
    refine ⟨uuid, rfl, ?_⟩
    rw [hwritten, ← haccount, adminPassword, adminPassword, h.controller]
  · exact .of_empty (by rw [secretPassword_eq, hstored, ← secretPassword_eq, hempty])

/-- The rest of a reconciliation that has found no password: the account gets a fresh one, then the secret. -/
theorem ensures_fresh {svm : Svm} {s : Systems} (huuid : svm.uuid = some uuid)
    (hempty : secretPassword engine project s = none) :
    Program.Ensures (conduct T) (credentialSteps engine project svm.uuid)
      (Reconciled T engine project svm s)
      (do
        let (fresh, rotated) ← ensureAccount engine svm.name uuid
        writeSecret (storedSecret engine project s).isSome
          (projectSecret engine project ⟨engine.adminUsername, fresh⟩)
        return .secretCreated ⟨engine.adminUsername, fresh⟩ rotated : Attempt CredentialOutcome).run
      s := by
  rw [huuid]
  refine Program.Ensures.attempt _ (ensures_ensureAccount svm.name hempty) ?_ ?_
  · rintro ⟨fresh, rotated⟩ s₁ hensured
    have hstored : storedSecret engine project s₁ = storedSecret engine project s := by
      rw [storedSecret, hensured.secrets]
      rfl
    have hempty₁ : secretPassword engine project s₁ = none := by
      rw [secretPassword_eq, hstored, ← secretPassword_eq, hempty]
    have hfresh := hensured.fresh fresh rotated rfl
    rw [← hstored]
    refine Program.Ensures.attempt _ (ensures_writeSecret s₁ ⟨engine.adminUsername, fresh⟩) ?_ ?_
    · intro value s₂ hwritten
      exact {
        agrees := fun _ => huuid ▸ hwritten.agrees hfresh.account hempty₁
        stored := by
          rintro outcome ⟨⟩ hnonempty
          rcases hwritten.stored with hstored | ⟨hfailed, -⟩
          · obtain ⟨turn, hturn, hpassword⟩ := hfresh.handedOut
            refine ⟨_, hstored, rfl, ?_⟩
            have : fresh ≠ "" := hpassword ▸ hnonempty turn hturn
            simpa [projectSecret, Credentials.hasPassword] using this
          · exact absurd rfl (hfailed value)
        settled := fun _ _ _ => ⟨_, rfl⟩ }
    · intro failure s₂ hwritten
      exact {
        agrees := fun _ => huuid ▸ hwritten.agrees hfresh.account hempty₁
        stored := by rintro outcome ⟨⟩
        settled := fun hcalm _ _ => by cases hwritten.settled hcalm }
  · intro failure s₁ hensured
    exact {
      agrees := fun _ => .of_empty (by rw [secretPassword, hensured.secrets]; exact hempty)
      stored := by rintro outcome ⟨⟩
      settled := fun hcalm hrotate _ => by
        obtain ⟨_, herror⟩ := hensured.settled hcalm hrotate
        cases herror }

theorem requireUuid_eq_ok_iff {svm : Svm} {uuid : String} :
    requireUuid svm = .ok uuid ↔ svm.uuid = some uuid := by
  rw [requireUuid]
  cases svm.uuid <;> simp

theorem ensures_reconcile (engine : Settings.Engine) (project : String) (svm : Svm) (s : Systems) :
    Program.Ensures (conduct T) (credentialSteps engine project svm.uuid)
      (Reconciled T engine project svm s) (reconcile engine project svm).run s := by
  unfold reconcile
  refine Program.Ensures.attempt _ (ensures_getSecret s) ?_ ?_
  · intro existing s₁ hpost
    obtain ⟨hcontroller, hstored, hexisting, -⟩ := hpost
    obtain rfl : existing = storedSecret engine project s := hexisting existing rfl
    rw [← hstored]
    -- with a password in the secret nothing else is done
    cases hpresent : (storedSecret engine project s₁).filter (·.credentials.hasPassword) with
    | some record =>
      obtain ⟨hrecord, hpassword⟩ := Option.filter_eq_some_iff.1 hpresent
      exact {
        agrees := fun h => h.congr (by rw [secretPassword_eq, secretPassword_eq, hstored])
          fun uuid _ => by rw [adminPassword, adminPassword, hcontroller]
        stored := by
          rintro outcome ⟨⟩ -
          exact ⟨record, hrecord, rfl, hpassword⟩
        settled := fun _ _ _ => ⟨_, rfl⟩ }
    | none =>
      have hempty : secretPassword engine project s₁ = none := by
        rw [secretPassword_eq, hpresent]
        rfl
      refine Program.Ensures.check ?_ ?_
      · intro uuid huuid
        refine (ensures_fresh (requireUuid_eq_ok_iff.1 huuid) hempty).imp fun result s' h => ?_
        exact {
          agrees := fun _ => h.agrees (.of_empty hempty)
          stored := h.stored
          settled := h.settled }
      · intro failure hfailure
        exact {
          agrees := fun _ => .of_empty hempty
          stored := by rintro outcome ⟨⟩
          settled := fun _ _ hsome => by
            obtain ⟨uuid, huuid⟩ := Option.isSome_iff_exists.1 hsome
            cases hfailure.symm.trans (requireUuid_eq_ok_iff.2 huuid) }
  · intro failure s₁ hpost
    obtain ⟨hcontroller, hstored, -, hanswered⟩ := hpost
    exact {
      agrees := fun h => h.congr (by rw [secretPassword_eq, secretPassword_eq, hstored])
        fun uuid _ => by rw [adminPassword, adminPassword, hcontroller]
      stored := by rintro outcome ⟨⟩
      settled := fun hcalm _ _ => by
        obtain ⟨value, herror⟩ := hanswered hcalm
        cases herror }

end TenantStorage.Provision
