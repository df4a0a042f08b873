import TenantStorage.Proofs.Memory.Effects

namespace TenantStorage

/-!
# Where passwords are kept

The controller keeps the passwords of accounts, and secrets hold copies of them.

* `MemorySecrets.passwordAt` — the password of a secret that has one.
* `passwordOf_of_createAccount`, `passwordOf_of_setPassword`, `stored_of_write` — what a successful call has
  written.
* `createAccount_cases`, `setPassword_of_isSome`, `create_of_none`, `replace_of_isSome` — when a call succeeds.
-/

/-! ### What a call writes -/

/-- The password that a call gives to an account. -/
def Call.accountPassword? (key : KeyPair) : Call → Option String
  | .controller (.createAccount order) =>
    if (⟨order.ownerUuid, order.credentials.username⟩ : KeyPair) = key then
      some order.credentials.password
    else none
  | .controller (.setPassword ownerUuid username password) =>
    if (⟨ownerUuid, username⟩ : KeyPair) = key then some password else none
  | _ => none

/-- The password that a call gives to a secret. -/
def Call.secretPassword? (key : KeyPair) : Call → Option String
  | .secrets (.create record) | .secrets (.replace record) =>
    if MemorySecrets.keyOf record = key then some record.credentials.password else none
  | _ => none

/-! ### Accounts -/

namespace MemoryController

variable {c : MemoryController} {ownerUuid username : String}

/-- The password of an account that no action may write stays. -/
theorem passwordOf_eq_of_find? {c' : MemoryController}
    (h : c'.accounts.find? ⟨ownerUuid, username⟩ = c.accounts.find? ⟨ownerUuid, username⟩) :
    c'.passwordOf ownerUuid username = c.passwordOf ownerUuid username := by
  rw [passwordOf, passwordOf, h]

/-- An account that was created has the password of its order. -/
theorem passwordOf_of_createAccount {order : Account.Order}
    (h : (c.perform (.createAccount order)).1 = .ok ()) :
    (c.perform (.createAccount order)).2.passwordOf order.ownerUuid order.credentials.username =
      some order.credentials.password := by
  simp only [perform, answer] at h ⊢
  split at h
  · cases h
  · rename_i hfree
    simp [hfree, passwordOf]

/-- An account whose password was set has this password. -/
theorem passwordOf_of_setPassword {password : String}
    (h : (c.perform (.setPassword ownerUuid username password)).1 = .ok ()) :
    (c.perform (.setPassword ownerUuid username password)).2.passwordOf ownerUuid username =
      some password := by
  simp only [perform, answer] at h ⊢
  split at h
  · cases h
  · simp [passwordOf]

/-- An account is created, or it exists already and stays as it is. -/
theorem createAccount_cases (order : Account.Order) (c : MemoryController) :
    (c.perform (.createAccount order)).1 = .ok () ∨
      ∃ failure, (c.perform (.createAccount order)).1 = .error failure ∧
        failure.isAlreadyExists = true ∧
        ((c.perform (.createAccount order)).2.passwordOf order.ownerUuid
          order.credentials.username).isSome = true := by
  simp only [perform, answer]
  split
  · rename_i htaken
    exact .inr ⟨_, rfl, rfl, by simpa [passwordOf, SortedMap.contains_eq_isSome] using htaken⟩
  · exact .inl rfl

/-- A call that fails leaves all accounts alone. -/
theorem accounts_of_error {call : ControllerCall} {failure : Failure}
    (h : (c.perform call).1 = .error failure) : (c.perform call).2.accounts = c.accounts := by
  cases call with
  | createAccount _ | setPassword _ _ _ =>
    simp only [perform, answer] at h ⊢
    split at h
    · rename_i hcase
      simp [hcase]
    · cases h
  | svm _ | createSvm _ | createInterface _ =>
    simp only [perform, answer]
    -- these may fail too, but write no accounts either way
    repeat' split
    all_goals rfl
  | svmByName _ | nodes | aggregates | peerGroups | account _ _ => rfl

/-- An account that exists does not notice the creation of one. -/
theorem passwordOf_createAccount_of_some {password : String}
    (h : c.passwordOf ownerUuid username = some password) (order : Account.Order) :
    (c.perform (.createAccount order)).2.passwordOf ownerUuid username = some password := by
  by_cases hkey : (⟨order.ownerUuid, order.credentials.username⟩ : KeyPair) = ⟨ownerUuid, username⟩
  · obtain ⟨rfl, rfl⟩ := KeyPair.mk.inj hkey
    -- the account that was ordered is the one that exists, so the order is refused
    have htaken : c.accounts.contains ⟨order.ownerUuid, order.credentials.username⟩ = true := by
      rw [SortedMap.contains_eq_isSome]
      rw [passwordOf] at h
      exact Option.isSome_map.symm.trans (congrArg Option.isSome h)
    have hrefused : (c.perform (.createAccount order)).2.accounts = c.accounts := by
      simp [perform, answer, htaken]
    rw [passwordOf, hrefused]
    exact h
  · rw [← h]
    exact passwordOf_eq_of_find?
      ((becomes_perform _ c).account fun howner => hkey (Option.some.inj howner))

/-- An existing account is shown. -/
theorem account_of_isSome (h : (c.passwordOf ownerUuid username).isSome = true) :
    ∃ account, (c.perform (.account ownerUuid username)).1 = .ok (some account) := by
  obtain ⟨password, hpassword⟩ := Option.isSome_iff_exists.1 h
  obtain ⟨login, hlogin, -⟩ := Option.map_eq_some_iff.1 hpassword
  exact ⟨_, by simp only [perform, answer, hlogin, Option.map_some]; rfl⟩

/-- The password of an existing account can be set. -/
theorem setPassword_of_isSome (h : (c.passwordOf ownerUuid username).isSome = true)
    (password : String) : (c.perform (.setPassword ownerUuid username password)).1 = .ok () := by
  obtain ⟨old, hold⟩ := Option.isSome_iff_exists.1 h
  obtain ⟨login, hlogin, -⟩ := Option.map_eq_some_iff.1 hold
  simp only [perform, answer, hlogin]

/-- A call leaves an account with the password that it has given to it, if it succeeds. -/
theorem passwordOf_perform (call : ControllerCall) (key : KeyPair) (c : MemoryController) :
    (c.perform call).2.passwordOf key.first key.second =
      (if (c.perform call).1.isOk then Call.accountPassword? key (.controller call) else none).or
        (c.passwordOf key.first key.second) := by
  cases hresult : (c.perform call).1 with
  | error failure =>
    rw [passwordOf, accounts_of_error hresult]
    rfl
  | ok value =>
    -- the only call that gives the account a password is one that may write it
    by_cases hkey : call.account? = some key
    · cases call with
      | createAccount order =>
        obtain rfl := Option.some.inj hkey
        rw [passwordOf_of_createAccount hresult]
        simp [Except.isOk, Except.toBool, Call.accountPassword?]
      | setPassword ownerUuid username password =>
        obtain rfl := Option.some.inj hkey
        rw [passwordOf_of_setPassword hresult]
        simp [Except.isOk, Except.toBool, Call.accountPassword?]
      | _ => cases hkey
    · have hkept := (becomes_perform call c).account hkey
      have hnone : Call.accountPassword? key (.controller call) = none := by
        cases call <;> simp_all [Call.accountPassword?, ControllerCall.account?]
      rw [passwordOf_eq_of_find? hkept, hnone]
      simp

end MemoryController

/-! ### Secrets -/

namespace MemorySecrets

variable {s : MemorySecrets} {record : SecretRecord}

/-- The password of a secret that has one. -/
def passwordAt (s : MemorySecrets) (ns name : String) : Option String :=
  ((s.stored ns name).filter (·.credentials.hasPassword)).map (·.credentials.password)

theorem passwordAt_eq_of_stored {s' : MemorySecrets} {ns name : String}
    (h : s'.stored ns name = s.stored ns name) : s'.passwordAt ns name = s.passwordAt ns name := by
  rw [passwordAt, passwordAt, h]

/-- The password of a secret that is there.  An empty one is none. -/
theorem passwordAt_of_stored {ns name : String} (h : s.stored ns name = some record) :
    s.passwordAt ns name = (some record.credentials.password).filter (· != "") := by
  rw [passwordAt, h]
  simp only [Option.filter, Credentials.hasPassword]
  split <;> simp_all

/-- A password that a secret has is not empty. -/
theorem filter_of_passwordAt {ns name password : String} (h : s.passwordAt ns name = some password) :
    (some password).filter (· != "") = some password := by
  obtain ⟨record, hrecord, rfl⟩ := Option.map_eq_some_iff.1 h
  exact Option.filter_eq_some_iff.2 ⟨rfl, (Option.filter_eq_some_iff.1 hrecord).2⟩

/-- A call that fails leaves all secrets alone. -/
theorem records_of_error {call : SecretCall} {failure : Failure}
    (h : (s.perform call).1 = .error failure) : (s.perform call).2.records = s.records := by
  cases call with
  | get _ _ => rfl
  | create _ =>
    simp only [perform] at h ⊢
    split at h
    · rename_i hcase
      simp [hcase]
    · cases h
  | replace _ =>
    simp only [perform] at h ⊢
    split at h
    · cases h
    · rename_i hcase
      simp [hcase]

/-- A secret is created where there is none. -/
theorem create_of_none (h : s.stored record.ns record.name = none) :
    (s.perform (.create record)).1 = .ok () := by
  have hfree : s.records.contains (keyOf record) = false := by
    simpa [SortedMap.contains_eq_isSome, stored, keyOf] using h
  simp [perform, hfree]

/-- A secret is replaced where there is one. -/
theorem replace_of_isSome (h : (s.stored record.ns record.name).isSome = true) :
    (s.perform (.replace record)).1 = .ok () := by
  have htaken : s.records.contains (keyOf record) = true := h
  simp [perform, htaken]

/-- A write that succeeds leaves the record in its place, and one that fails changes nothing there. -/
theorem stored_of_write {call : SecretCall} (hcall : call = .create record ∨ call = .replace record) :
    ((∃ value, (s.perform call).1 = .ok value) ∧
        (s.perform call).2.stored record.ns record.name = some record) ∨
      ((∃ failure, (s.perform call).1 = .error failure) ∧
        (s.perform call).2.stored record.ns record.name = s.stored record.ns record.name) := by
  rcases hcall with rfl | rfl <;> simp only [perform] <;> split
  · exact .inr ⟨⟨_, rfl⟩, rfl⟩
  · exact .inl ⟨⟨_, rfl⟩, SortedMap.find?_insert_self _ _ _⟩
  · exact .inl ⟨⟨_, rfl⟩, SortedMap.find?_insert_self _ _ _⟩
  · exact .inr ⟨⟨_, rfl⟩, rfl⟩

/-- A call leaves a secret with the password that it has given to it, if it succeeds. -/
theorem passwordAt_perform (call : SecretCall) (key : KeyPair) (s : MemorySecrets) :
    (s.perform call).2.passwordAt key.first key.second =
      match if (s.perform call).1.isOk then Call.secretPassword? key (.secrets call) else none with
      | some password => (some password).filter (· != "")
      | none => s.passwordAt key.first key.second := by
  cases hresult : (s.perform call).1 with
  | error failure =>
    refine passwordAt_eq_of_stored ?_
    rw [stored, records_of_error hresult]
    rfl
  | ok value =>
    -- the only call that gives the secret a password is one that may write it
    by_cases hkey : call.secret? = some key
    · have hwrite (record : SecretRecord) (hcall : call = .create record ∨ call = .replace record) :
          (s.perform call).2.stored record.ns record.name = some record := by
        rcases stored_of_write hcall with ⟨-, hstored⟩ | ⟨⟨failure, hfailure⟩, -⟩
        · exact hstored
        · cases hfailure.symm.trans hresult
      cases call with
      | create record | replace record =>
        obtain rfl := Option.some.inj hkey
        rw [keyOf, passwordAt_of_stored (hwrite record (by simp))]
        simp [Except.isOk, Except.toBool, Call.secretPassword?, keyOf]
      | get _ _ => cases hkey
    · have hkept := (becomes_perform call s).secret hkey
      have hnone : Call.secretPassword? key (.secrets call) = none := by
        cases call <;> simp_all [Call.secretPassword?, SecretCall.secret?]
      rw [hnone]
      simpa using passwordAt_eq_of_stored hkept

end MemorySecrets

end TenantStorage
