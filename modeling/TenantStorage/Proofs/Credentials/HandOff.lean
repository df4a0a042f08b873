import TenantStorage.Proofs.Credentials.Steps
import TenantStorage.Proofs.Talk

namespace TenantStorage.Provision

open Engine

/-!
# The hand-off of credentials, whatever the two systems reply

A reconciliation is followed call by call.  Nothing is assumed of the replies, so the account may be reported as
missing and as existing at once, and any call may fail in any way.

* `Opening`, `Rotation` — the creation of the account, and what is said when there is one already.
* `AccountTalk` — from the machine to a password that its account has.
* `HandOff` — the whole talk, and what it comes to; `handOff_of_said` says that there are no others.
* `HandOff.unbroken` — nothing is said after a failure that matters.
* `DeliversCredentials` — what a talk says about passwords, clause by clause.
* `deliversCredentials_reconcile` — every reconciliation delivers in this sense.
-/

variable {engine : Settings.Engine} {project : String} {svm : Svm} {uuid : String} {said : List Said}

/-! ### The account -/

/-- The order of the administrative account of a machine. -/
def adminOrder (engine : Settings.Engine) (uuid fresh : String) : Account.Order :=
  { ownerUuid := uuid, role := engine.adminRole, credentials := ⟨engine.adminUsername, fresh⟩ }

/-- What is said to replace the password of an existing account. -/
inductive Rotation (engine : Settings.Engine) (svmName uuid : String) :
    List Said → Except Failure String → Prop where
  | unread (failure : Failure) :
      Rotation engine svmName uuid
        [.called (.controller (.account uuid engine.adminUsername)) (.error failure)] (.error failure)
  | missing :
      Rotation engine svmName uuid
        [.called (.controller (.account uuid engine.adminUsername)) (.ok none)]
        (.error (.internal ("account " ++ engine.adminUsername ++ " on SVM " ++ svmName ++
          " reported as existing but cannot be read")))
  | forbidden (account : Account) (h : engine.rotateOnMissingSecret = false) :
      Rotation engine svmName uuid
        [.called (.controller (.account uuid engine.adminUsername)) (.ok (some account))]
        (.error (.seedSecretMissing svmName engine.adminUsername))
  | refused (account : Account) (fresh : String) (failure : Failure)
      (h : engine.rotateOnMissingSecret = true) :
      Rotation engine svmName uuid
        [.called (.controller (.account uuid engine.adminUsername)) (.ok (some account)),
          .called (.controller (.setPassword uuid engine.adminUsername fresh)) (.error failure)]
        (.error failure)
  | rotated (account : Account) (fresh : String) (h : engine.rotateOnMissingSecret = true) :
      Rotation engine svmName uuid
        [.called (.controller (.account uuid engine.adminUsername)) (.ok (some account)),
          .called (.controller (.setPassword uuid engine.adminUsername fresh)) (.ok ())]
        (.ok fresh)

theorem rotation_of_said {svmName : String} {result : Except Failure String}
    (h : Says (rotatePassword engine svmName uuid).run said result) :
    Rotation engine svmName uuid said result := by
  rw [rotatePassword] at h
  rcases says_call_then_iff.1 h with ⟨failure, rfl, rfl⟩ | ⟨found, rest, rfl, hrest⟩
  · exact .unread failure
  · cases found with
    | none =>
      obtain ⟨rfl, rfl⟩ := says_throw_iff.1 hrest
      exact .missing
    | some account =>
      cases hrotate : engine.rotateOnMissingSecret with
      | false =>
        simp only [hrotate] at hrest
        obtain ⟨rfl, rfl⟩ := says_throw_iff.1 hrest
        exact .forbidden account hrotate
      | true =>
        simp only [hrotate, Bool.not_true, Bool.false_eq_true, if_false] at hrest
        obtain ⟨fresh, hset⟩ := says_password_then_iff.1 hrest
        rcases says_call_then_iff.1 hset with ⟨failure, rfl, rfl⟩ | ⟨value, rest, rfl, hcount⟩
        · exact .refused account fresh failure hrotate
        · have hend := says_count_then_iff.1 hcount
          obtain ⟨rfl, rfl⟩ := says_return_iff.1 hend
          exact .rotated account fresh hrotate

/-- What is said to create the account of a machine. -/
inductive Opening (engine : Settings.Engine) (uuid : String) :
    List Said → Except Failure (Option String) → Prop where
  | created (fresh : String) :
      Opening engine uuid
        [.called (.controller (.createAccount (adminOrder engine uuid fresh))) (.ok ())]
        (.ok (some fresh))
  | existing (fresh : String) (failure : Failure) (h : failure.isAlreadyExists = true) :
      Opening engine uuid
        [.called (.controller (.createAccount (adminOrder engine uuid fresh))) (.error failure)]
        (.ok none)
  | refused (fresh : String) (failure : Failure) (h : failure.isAlreadyExists = false) :
      Opening engine uuid
        [.called (.controller (.createAccount (adminOrder engine uuid fresh))) (.error failure)]
        (.error failure)

theorem opening_of_said {result : Except Failure (Option String)}
    (h : Says (createAccount engine uuid).run said result) : Opening engine uuid said result := by
  rw [createAccount, ExceptT.run_mk, says_bind_iff] at h
  obtain ⟨_, rest, fresh, rfl, hfresh, hrest⟩ := h
  obtain rfl := says_password_iff.1 hfresh
  obtain ⟨_, _, reply, rfl, hcall, hend⟩ := says_bind_iff.1 hrest
  obtain rfl := says_call_iff.1 hcall
  cases reply with
  | ok value =>
    obtain ⟨rfl, rfl⟩ := says_pure_iff.1 hend
    exact .created fresh
  | error failure =>
    cases hkind : failure.isAlreadyExists with
    | true =>
      simp only [hkind, if_true] at hend
      obtain ⟨rfl, rfl⟩ := says_pure_iff.1 hend
      exact .existing fresh failure hkind
    | false =>
      simp only [hkind, Bool.false_eq_true, if_false] at hend
      obtain ⟨rfl, rfl⟩ := says_pure_iff.1 hend
      exact .refused fresh failure hkind

/-- What is said to give the account of a machine a password, with whether it replaced another. -/
inductive AccountTalk (engine : Settings.Engine) (svmName uuid : String) :
    List Said → Except Failure (String × Bool) → Prop where
  | created (fresh : String) :
      AccountTalk engine svmName uuid
        [.called (.controller (.createAccount (adminOrder engine uuid fresh))) (.ok ())]
        (.ok (fresh, false))
  | refused (fresh : String) (failure : Failure) (h : failure.isAlreadyExists = false) :
      AccountTalk engine svmName uuid
        [.called (.controller (.createAccount (adminOrder engine uuid fresh))) (.error failure)]
        (.error failure)
  | kept (fresh : String) (failure : Failure) (h : failure.isAlreadyExists = true)
      {said : List Said} {failure' : Failure}
      (hrotation : Rotation engine svmName uuid said (.error failure')) :
      AccountTalk engine svmName uuid
        (.called (.controller (.createAccount (adminOrder engine uuid fresh))) (.error failure) :: said)
        (.error failure')
  | rotated (fresh : String) (failure : Failure) (h : failure.isAlreadyExists = true)
      {said : List Said} {fresh' : String} (hrotation : Rotation engine svmName uuid said (.ok fresh')) :
      AccountTalk engine svmName uuid
        (.called (.controller (.createAccount (adminOrder engine uuid fresh))) (.error failure) :: said)
        (.ok (fresh', true))

theorem accountTalk_of_said {svmName : String} {result : Except Failure (String × Bool)}
    (h : Says (ensureAccount engine svmName uuid).run said result) :
    AccountTalk engine svmName uuid said result := by
  rw [ensureAccount, says_attempt_iff] at h
  rcases h with ⟨failure, hopening, rfl⟩ | ⟨before, rest, found, rfl, hopening, hrest⟩
  -- the account is there afterwards in the second case: as a new one, or as one that has to be recovered
  · cases opening_of_said hopening with
    | refused fresh _ hkind => exact .refused fresh failure hkind
  · cases opening_of_said hopening with
    | created fresh =>
      obtain ⟨rfl, rfl⟩ := says_return_iff.1 hrest
      exact .created fresh
    | existing fresh failure hkind =>
      obtain ⟨inner, hrotation, rfl⟩ := says_map_iff.1 hrest
      cases inner with
      | ok fresh' => exact .rotated fresh failure hkind (rotation_of_said hrotation)
      | error failure' => exact .kept fresh failure hkind (rotation_of_said hrotation)

namespace AccountTalk

variable {svmName : String} {result : Except Failure (String × Bool)}

/-- The account is ordered first, and once. -/
theorem orders (h : AccountTalk engine svmName uuid said result) :
    ∃ fresh reply after,
      said = .called (.controller (.createAccount (adminOrder engine uuid fresh))) reply :: after ∧
        ∀ order reply', .called (.controller (.createAccount order)) reply' ∉ after := by
  cases h with
  | created fresh => exact ⟨fresh, _, [], rfl, by simp⟩
  | refused fresh failure _ => exact ⟨fresh, _, [], rfl, by simp⟩
  | kept fresh failure _ hrotation => exact ⟨fresh, _, _, rfl, by cases hrotation <;> simp⟩
  | rotated fresh failure _ hrotation => exact ⟨fresh, _, _, rfl, by cases hrotation; simp⟩

/-- A password is set last, when the account was said to exist and then was shown. -/
theorem rotates (h : AccountTalk engine svmName uuid said result) {before after : List Said}
    {ownerUuid username password : String} {reply : Except Failure Unit}
    (hsaid : said =
      before ++ .called (.controller (.setPassword ownerUuid username password)) reply :: after) :
    ownerUuid = uuid ∧ username = engine.adminUsername ∧ engine.rotateOnMissingSecret = true ∧
      after = [] ∧ ∃ fresh failure account, failure.isAlreadyExists = true ∧
        before = [.called (.controller (.createAccount (adminOrder engine uuid fresh))) (.error failure),
          .called (.controller (.account uuid engine.adminUsername)) (.ok (some account))] := by
  -- whether the password was set or the call refused, the call is the third
  have hthird {fresh fresh' : String} {failure : Failure} {account : Account} {reply' : Except Failure Unit}
      (h : [.called (.controller (.createAccount (adminOrder engine uuid fresh))) (.error failure),
        .called (.controller (.account uuid engine.adminUsername)) (.ok (some account)),
        .called (.controller (.setPassword uuid engine.adminUsername fresh')) reply'] =
          before ++ .called (.controller (.setPassword ownerUuid username password)) reply :: after) :
      ownerUuid = uuid ∧ username = engine.adminUsername ∧ after = [] ∧
        before = [.called (.controller (.createAccount (adminOrder engine uuid fresh))) (.error failure),
          .called (.controller (.account uuid engine.adminUsername)) (.ok (some account))] := by
    obtain ⟨_, rfl, hshown⟩ := cons_eq_append_cons (by simp) h
    obtain ⟨_, rfl, hset⟩ := cons_eq_append_cons (by simp) hshown
    obtain ⟨rfl, hcall, rfl⟩ := singleton_eq_append_cons hset
    cases hcall
    exact ⟨rfl, rfl, rfl, rfl⟩
  cases h with
  | created _ | refused _ _ _ =>
    obtain ⟨-, hset, -⟩ := singleton_eq_append_cons hsaid
    cases (Said.called.inj hset).1
  | kept fresh failure hkind hrotation =>
    cases hrotation with
    | unread _ | missing | forbidden _ _ =>
      obtain ⟨_, -, hshown⟩ := cons_eq_append_cons (by simp) hsaid
      obtain ⟨-, hset, -⟩ := singleton_eq_append_cons hshown
      cases (Said.called.inj hset).1
    | refused account fresh' failure' hrotate =>
      obtain ⟨rfl, rfl, rfl, rfl⟩ := hthird hsaid
      exact ⟨rfl, rfl, hrotate, rfl, fresh, failure, account, hkind, rfl⟩
  | rotated fresh failure hkind hrotation =>
    cases hrotation with
    | rotated account fresh' hrotate =>
      obtain ⟨rfl, rfl, rfl, rfl⟩ := hthird hsaid
      exact ⟨rfl, rfl, hrotate, rfl, fresh, failure, account, hkind, rfl⟩

/-- Secrets are not spoken of. -/
theorem secrets_notMem (h : AccountTalk engine svmName uuid said result) (call : SecretCall)
    (reply : Except Failure call.Answer) : .called (.secrets call) reply ∉ said := by
  cases h with
  | created _ | refused _ _ _ => simp
  | kept _ _ _ hrotation => cases hrotation <;> simp
  | rotated _ _ _ hrotation => cases hrotation; simp

/-- The last call has given the password to the account; it set a password if one was replaced. -/
theorem gives {password : String} {rotated : Bool}
    (h : AccountTalk engine svmName uuid said (.ok (password, rotated))) :
    ∃ earlier, said = earlier ++ [if rotated then
        .called (.controller (.setPassword uuid engine.adminUsername password)) (.ok ())
      else .called (.controller (.createAccount (adminOrder engine uuid password))) (.ok ())] := by
  cases h with
  | created _ => exact ⟨[], rfl⟩
  | rotated fresh failure _ hrotation =>
    cases hrotation with
    | rotated account _ _ => exact ⟨[_, _], rfl⟩

/-- A password was replaced exactly when one was set. -/
theorem rotated_iff {password : String} {rotated : Bool}
    (h : AccountTalk engine svmName uuid said (.ok (password, rotated))) :
    rotated = true ↔ ∃ ownerUuid username password' reply,
      .called (.controller (.setPassword ownerUuid username password')) reply ∈ said := by
  cases h with
  | created _ => simp
  | rotated fresh failure _ hrotation =>
    cases hrotation with
    | rotated account _ _ =>
      have hset : Said.called (.controller (.setPassword uuid engine.adminUsername password)) (.ok ()) ∈
          [.called (.controller (.createAccount (adminOrder engine uuid fresh))) (.error failure),
            .called (.controller (.account uuid engine.adminUsername)) (.ok (some account)),
            .called (.controller (.setPassword uuid engine.adminUsername password)) (.ok ())] := by
        simp
      exact ⟨fun _ => ⟨_, _, _, _, hset⟩, fun _ => rfl⟩

end AccountTalk

/-! ### The whole -/

/-- The call that reads the secret of a project. -/
def readCall (engine : Settings.Engine) (project : String) : SecretCall :=
  .get engine.secretNamespace (engine.secretName project)

/-- The write of a password to the secret of a project, over a stale one or as a new one, and the reply. -/
def wrote (engine : Settings.Engine) (project : String) (stale : Bool) (password : String)
    (reply : Except Failure Unit) : Said :=
  let record : SecretRecord := {
    ns := engine.secretNamespace
    name := engine.secretName project
    labels := engine.labels.forProject project
    credentials := { username := engine.adminUsername, password } }
  if stale then .called (.secrets (.replace record)) reply else .called (.secrets (.create record)) reply

/-- A write of a secret shows what was written. -/
theorem wrote_inj {stale stale' : Bool} {password password' : String} {reply reply' : Except Failure Unit} :
    wrote engine project stale password reply = wrote engine project stale' password' reply' ↔
      stale = stale' ∧ password = password' ∧ reply = reply' := by
  cases stale <;> cases stale' <;> simp [wrote]

/-- A write of a secret is nothing that is said to the controller. -/
theorem wrote_ne_controller (stale : Bool) (password : String) (reply : Except Failure Unit)
    (call : ControllerCall) (reply' : Except Failure call.Answer) :
    wrote engine project stale password reply ≠ .called (.controller call) reply' := by
  cases stale <;> simp [wrote]

/-- A write of a secret is no reading of it. -/
theorem wrote_ne_read (stale : Bool) (password : String) (reply : Except Failure Unit)
    (reply' : Except Failure (readCall engine project).Answer) :
    wrote engine project stale password reply ≠ .called (.secrets (readCall engine project)) reply' := by
  intro h
  cases stale <;> cases (Said.called.inj h).1

/-- What is said in a reconciliation, and what it comes to. -/
inductive HandOff (engine : Settings.Engine) (project : String) (svm : Svm) :
    List Said → Except Failure CredentialOutcome → Prop where
  | unread (failure : Failure) :
      HandOff engine project svm [.called (.secrets (readCall engine project)) (.error failure)]
        (.error failure)
  | stored (record : SecretRecord) (h : record.credentials.hasPassword = true) :
      HandOff engine project svm [.called (.secrets (readCall engine project)) (.ok (some record))]
        (.ok (.reconciled record.credentials))
  | nameless (existing : Option SecretRecord)
      (h : existing.filter (·.credentials.hasPassword) = none) (huuid : svm.uuid = none) :
      HandOff engine project svm [.called (.secrets (readCall engine project)) (.ok existing)]
        (.error (.notFound "SvmUuid" svm.name))
  | unaccounted (existing : Option SecretRecord) {uuid : String} {said : List Said} {failure : Failure}
      (h : existing.filter (·.credentials.hasPassword) = none) (huuid : svm.uuid = some uuid)
      (haccount : AccountTalk engine svm.name uuid said (.error failure)) :
      HandOff engine project svm (.called (.secrets (readCall engine project)) (.ok existing) :: said)
        (.error failure)
  | written (existing : Option SecretRecord) {uuid fresh : String} {rotated : Bool} {said : List Said}
      (reply : Except Failure Unit)
      (h : existing.filter (·.credentials.hasPassword) = none) (huuid : svm.uuid = some uuid)
      (haccount : AccountTalk engine svm.name uuid said (.ok (fresh, rotated))) :
      HandOff engine project svm
        (.called (.secrets (readCall engine project)) (.ok existing) ::
          (said ++ [wrote engine project existing.isSome fresh reply]))
        (reply.map fun _ => .secretCreated ⟨engine.adminUsername, fresh⟩ rotated)

theorem writeSecret_of_said {stale : Bool} {password : String} {result : Except Failure Unit}
    (h : Says (writeSecret stale (projectSecret engine project ⟨engine.adminUsername, password⟩)).run
      said result) : said = [wrote engine project stale password result] := by
  cases stale <;> exact says_call_iff.1 h

/-- A machine without an identifier cannot be reconciled. -/
theorem requireUuid_eq_error_iff {failure : Failure} :
    requireUuid svm = .error failure ↔ svm.uuid = none ∧ failure = .notFound "SvmUuid" svm.name := by
  rw [requireUuid]
  cases svm.uuid <;> simp [eq_comm]

/-- Every talk of a reconciliation is a hand-off. -/
theorem handOff_of_said {result : Except Failure CredentialOutcome}
    (h : Says (reconcile engine project svm).run said result) : HandOff engine project svm said result := by
  rw [reconcile] at h
  rcases says_call_then_iff.1 h with ⟨failure, rfl, rfl⟩ | ⟨existing, rest, rfl, hrest⟩
  · exact .unread failure
  · cases hpresent : existing.filter (·.credentials.hasPassword) with
    | some record =>
      obtain ⟨rfl, hpassword⟩ := Option.filter_eq_some_iff.1 hpresent
      simp only [hpresent] at hrest
      obtain ⟨rfl, rfl⟩ := says_return_iff.1 hrest
      exact .stored record hpassword
    | none =>
      -- there is no password, so the machine has to be named before its account can be asked for
      simp only [hpresent] at hrest
      rcases says_check_iff.1 hrest with ⟨failure, hcheck, rfl, rfl⟩ | ⟨uuid, hcheck, hrest⟩
      · obtain ⟨huuid, rfl⟩ := requireUuid_eq_error_iff.1 hcheck
        exact .nameless existing hpresent huuid
      · have huuid := requireUuid_eq_ok_iff.1 hcheck
        rcases says_attempt_iff.1 hrest with
          ⟨failure, haccount, rfl⟩ | ⟨before, _, ⟨fresh, rotated⟩, rfl, haccount, hend⟩
        · exact .unaccounted existing hpresent huuid (accountTalk_of_said haccount)
        · obtain ⟨inner, hwrite, rfl⟩ := says_map_iff.1 hend
          obtain rfl := writeSecret_of_said hwrite
          exact .written existing inner hpresent huuid (accountTalk_of_said haccount)

/-- While the account gets its password no secret is written. -/
theorem AccountTalk.wrote_notMem {svmName : String} {result : Except Failure (String × Bool)}
    (h : AccountTalk engine svmName uuid said result) (stale : Bool) (password : String)
    (reply : Except Failure Unit) : wrote engine project stale password reply ∉ said := by
  cases stale with
  | false => exact h.secrets_notMem (.create _) reply
  | true => exact h.secrets_notMem (.replace _) reply

/-! ### Nothing after the end -/

theorem Rotation.steady {svmName : String} {result : Except Failure String}
    (h : Rotation engine svmName uuid said result) : Steady said result := by
  cases h with
  | unread _ | missing | forbidden _ _ => exact .of_error (.singleton _)
  | refused _ _ _ _ => exact .of_error (.cons trivial (.singleton _))
  | rotated _ _ _ => exact .of_goesOn (by simp [Said.GoesOn])

theorem AccountTalk.steady {svmName : String} {result : Except Failure (String × Bool)}
    (h : AccountTalk engine svmName uuid said result) : Steady said result := by
  cases h with
  | created _ => exact .of_goesOn (by simp [Said.GoesOn])
  | refused _ _ _ => exact .of_error (.singleton _)
  | kept _ _ hkind hrotation => exact .of_error (.cons ⟨rfl, hkind⟩ hrotation.steady.unbroken)
  | rotated _ _ hkind hrotation =>
    exact .of_goesOn (List.forall_mem_cons.2 ⟨⟨rfl, hkind⟩, hrotation.steady.goesOn _ rfl⟩)

theorem HandOff.unbroken {result : Except Failure CredentialOutcome}
    (h : HandOff engine project svm said result) : Unbroken said := by
  cases h with
  | unread _ | stored _ _ | nameless _ _ _ => exact .singleton _
  | unaccounted _ _ _ haccount => exact .cons trivial haccount.steady.unbroken
  | written _ _ _ _ haccount => exact .cons trivial (haccount.steady.append (.singleton _))

/-! ### Clause by clause -/

/-- What the talk of a reconciliation says about passwords, whatever the replies are. -/
structure DeliversCredentials (engine : Settings.Engine) (project : String) (svm : Svm)
    (said : List Said) (result : Except Failure CredentialOutcome) : Prop where
  /-- The secret is read before anything else. -/
  reads : ∃ reply rest, said = .called (.secrets (readCall engine project)) reply :: rest
  unread : ∀ failure rest,
    said = .called (.secrets (readCall engine project)) (.error failure) :: rest →
      rest = [] ∧ result = .error failure
  /-- A password that is stored is returned, and nothing else is asked. -/
  stored : ∀ record rest,
    said = .called (.secrets (readCall engine project)) (.ok (some record)) :: rest →
      record.credentials.hasPassword = true → rest = [] ∧ result = .ok (.reconciled record.credentials)
  /-- Without a password and without a machine that can be named, nothing else is asked. -/
  nameless : ∀ existing rest,
    said = .called (.secrets (readCall engine project)) (.ok existing) :: rest →
      existing.filter (·.credentials.hasPassword) = none → svm.uuid = none →
        rest = [] ∧ result = .error (.notFound "SvmUuid" svm.name)
  /-- Otherwise the account is ordered next, and once. -/
  orders : ∀ existing rest uuid,
    said = .called (.secrets (readCall engine project)) (.ok existing) :: rest →
      existing.filter (·.credentials.hasPassword) = none → svm.uuid = some uuid →
        ∃ fresh reply after,
          rest = .called (.controller (.createAccount (adminOrder engine uuid fresh))) reply :: after ∧
            ∀ order reply', .called (.controller (.createAccount order)) reply' ∉ after
  /-- A password is set once at most, for an account that exists and was shown, where the settings allow it. -/
  rotates : ∀ before ownerUuid username password reply after,
    said = before ++ .called (.controller (.setPassword ownerUuid username password)) reply :: after →
      svm.uuid = some ownerUuid ∧ username = engine.adminUsername ∧
        engine.rotateOnMissingSecret = true ∧
        (∃ existing fresh failure account, failure.isAlreadyExists = true ∧
          before = [.called (.secrets (readCall engine project)) (.ok existing),
            .called (.controller (.createAccount (adminOrder engine ownerUuid fresh))) (.error failure),
            .called (.controller (.account ownerUuid username)) (.ok (some account))]) ∧
        ∀ ownerUuid' username' password' reply',
          .called (.controller (.setPassword ownerUuid' username' password')) reply' ∉ after
  /-- The secret is written once at most, after the account has got a password from a call that succeeded,
      and with that password. -/
  writes : ∀ before call reply after, before ≠ [] → said = before ++ .called (.secrets call) reply :: after →
    after = [] ∧ ∃ existing rest uuid password reply',
      said = .called (.secrets (readCall engine project)) (.ok existing) :: rest ∧
        .called (.secrets call) reply = wrote engine project existing.isSome password reply' ∧
        svm.uuid = some uuid ∧ ∃ earlier,
          before = earlier ++
              [.called (.controller (.createAccount (adminOrder engine uuid password))) (.ok ())] ∨
            before = earlier ++
              [.called (.controller (.setPassword uuid engine.adminUsername password)) (.ok ())]
  /-- The credentials are reported as new exactly when the secret was written with them, and as rotated
      exactly when a password was set. -/
  created : ∀ credentials rotated, result = .ok (.secretCreated credentials rotated) ↔
    ∃ before stale password, credentials = ⟨engine.adminUsername, password⟩ ∧
      said = before ++ [wrote engine project stale password (.ok ())] ∧
      (rotated = true ↔ ∃ ownerUuid username password' reply,
        .called (.controller (.setPassword ownerUuid username password')) reply ∈ before)

/-- Every hand-off delivers credentials in this sense. -/
theorem HandOff.delivers {result : Except Failure CredentialOutcome}
    (h : HandOff engine project svm said result) :
    DeliversCredentials engine project svm said result where
  reads := by cases h <;> exact ⟨_, _, rfl⟩
  unread := by
    rintro failure rest rfl
    cases h
    exact ⟨rfl, rfl⟩
  stored := by
    rintro record rest rfl hpassword
    have hpresent : (some record).filter (·.credentials.hasPassword) = some record := by
      simp [hpassword]
    cases h with
    | stored _ _ => exact ⟨rfl, rfl⟩
    | nameless _ hempty _ | unaccounted _ hempty _ _ | written _ _ hempty _ _ =>
      cases hpresent.symm.trans hempty
  nameless := by
    rintro existing rest rfl hempty hnameless
    cases h with
    | stored record hpassword => simp [hpassword] at hempty
    | nameless _ _ _ => exact ⟨rfl, rfl⟩
    | unaccounted _ _ huuid _ | written _ _ _ huuid _ => cases huuid.symm.trans hnameless
  orders := by
    rintro existing rest uuid rfl hempty huuid
    cases h with
    | stored record hpassword => simp [hpassword] at hempty
    | nameless _ _ hnameless => cases huuid.symm.trans hnameless
    | unaccounted _ _ huuid' haccount =>
      cases huuid.symm.trans huuid'
      exact haccount.orders
    | written _ reply _ huuid' haccount =>
      cases huuid.symm.trans huuid'
      obtain ⟨fresh, reply', after, rfl, hafter⟩ := haccount.orders
      refine ⟨fresh, reply', _, rfl, fun order reply'' hmem => ?_⟩
      rcases List.mem_append.1 hmem with hmem | hmem
      · exact hafter order reply'' hmem
      · exact wrote_ne_controller _ _ _ _ _ (List.mem_singleton.1 hmem).symm
  rotates := by
    intro before ownerUuid username password reply after hsaid
    cases h with
    | unread _ | stored _ _ | nameless _ _ _ =>
      obtain ⟨-, hread, -⟩ := singleton_eq_append_cons hsaid
      cases (Said.called.inj hread).1
    | unaccounted existing _ huuid haccount =>
      obtain ⟨earlier, rfl, hrest⟩ := cons_eq_append_cons (by simp) hsaid
      obtain ⟨rfl, rfl, hrotate, rfl, fresh, failure, account, hkind, rfl⟩ := haccount.rotates hrest
      exact ⟨huuid, rfl, hrotate, ⟨existing, fresh, failure, account, hkind, rfl⟩, by simp⟩
    | written existing written _ huuid haccount =>
      obtain ⟨earlier, rfl, hrest⟩ := cons_eq_append_cons (by simp) hsaid
      rcases append_singleton_eq_append_cons hrest with ⟨-, hset, -⟩ | ⟨later, haccounted, rfl⟩
      · exact absurd hset.symm (wrote_ne_controller _ _ _ _ _)
      · obtain ⟨rfl, rfl, hrotate, rfl, fresh, failure, account, hkind, rfl⟩ :=
          haccount.rotates haccounted
        refine ⟨huuid, rfl, hrotate, ⟨existing, fresh, failure, account, hkind, rfl⟩, ?_⟩
        exact fun _ _ _ _ hmem => wrote_ne_controller _ _ _ _ _ (List.mem_singleton.1 hmem).symm
  writes := by
    intro before call reply after hbefore hsaid
    cases h with
    | unread _ | stored _ _ | nameless _ _ _ => exact absurd (singleton_eq_append_cons hsaid).1 hbefore
    | unaccounted existing _ huuid haccount =>
      rcases List.cons_eq_append_iff.1 hsaid with ⟨hnil, -⟩ | ⟨earlier, rfl, rfl⟩
      · exact absurd hnil hbefore
      · exact absurd (by simp) (haccount.secrets_notMem call reply)
    | @written existing uuid fresh rotated said reply' hempty huuid haccount =>
      rcases List.cons_eq_append_iff.1 hsaid with ⟨hnil, -⟩ | ⟨earlier, rfl, hrest⟩
      · exact absurd hnil hbefore
      · -- nothing that is said while the account gets its password is a write
        rcases append_singleton_eq_append_cons hrest with ⟨rfl, hwrote, rfl⟩ | ⟨later, rfl, -⟩
        · obtain ⟨before, rfl⟩ := haccount.gives
          refine ⟨rfl, existing, _, uuid, fresh, reply', rfl, hwrote, huuid,
            .called (.secrets (readCall engine project)) (.ok existing) :: before, ?_⟩
          cases rotated with
          | false => exact .inl rfl
          | true => exact .inr rfl
        · exact absurd (by simp) (haccount.secrets_notMem call reply)
  created := by
    intro credentials rotated
    constructor
    · intro hresult
      cases h with
      | unread _ | nameless _ _ _ | stored _ _ | unaccounted _ _ _ _ => cases hresult
      | written existing reply _ huuid haccount =>
        cases reply with
        | error failure => cases hresult
        | ok value =>
          cases hresult
          exact ⟨_ :: _, existing.isSome, _, rfl, rfl, by simpa using haccount.rotated_iff⟩
    · rintro ⟨before, stale, password, rfl, hsaid, hrotated⟩
      cases h with
      -- without a write that succeeds there is no such talk
      | unread _ | nameless _ _ _ | stored _ _ =>
        obtain ⟨-, hread, -⟩ := singleton_eq_append_cons hsaid
        exact absurd hread (wrote_ne_read _ _ _ _)
      | unaccounted _ _ _ haccount =>
        obtain ⟨earlier, rfl, rfl⟩ := cons_eq_append_cons (wrote_ne_read _ _ _ _) hsaid
        exact absurd (List.mem_append_right _ (List.mem_singleton.2 rfl))
          (haccount.wrote_notMem stale password (.ok ()))
      | @written existing uuid fresh rotated' said reply _ huuid haccount =>
        have hsplit : (.called (.secrets (readCall engine project)) (.ok existing) :: said) ++
            [wrote engine project existing.isSome fresh reply] =
              before ++ [wrote engine project stale password (.ok ())] := hsaid
        obtain ⟨rfl, hwrote⟩ := List.append_inj' hsplit rfl
        obtain ⟨-, rfl, rfl⟩ := wrote_inj.1 (List.cons.inj hwrote).1
        have hsame : rotated' = true ↔ rotated = true := by
          rw [haccount.rotated_iff, hrotated]
          simp
        rw [Bool.eq_iff_iff.2 hsame]
        rfl

/-- **A reconciliation keeps its word whatever the two systems reply**: when it asks for what, which password
    it stores, and what it reports. -/
theorem deliversCredentials_reconcile (engine : Settings.Engine) (project : String) (svm : Svm) {σ : Type}
    (handle : (action : Action) → σ → action.Answer × σ) (s : σ) :
    DeliversCredentials engine project svm
      (conversation handle (reconcile engine project svm).run s)
      (Program.run (S := actions) handle (reconcile engine project svm).run s).1 :=
  (handOff_of_said (says_run handle (reconcile engine project svm).run s)).delivers

end TenantStorage.Provision
