import TenantStorage.Proofs.Kubernetes.Naming
import TenantStorage.Proofs.Provision.Asks
import TenantStorage.Proofs.Provision.Recovery

namespace TenantStorage

/-!
# Reconciling at a store that refuses names

The store of secrets refuses the secrets that Kubernetes does not admit.  By then the account has been written, with
a password that is lost.

* `Systems.strict`, `Systems.guarded` — turns, and a handler, under which such secrets are refused.
* `run_guarded_of_admitted` — for a secret that is admitted nothing changes.
* `records_guarded`, `ensures_reconcile_refused` — for one that is not, the store keeps what it had, and a run with
  which nothing else goes wrong gives the account a fresh password before it is refused.
* `stored_iff_isProjectName` — which of the two it is, for every request that is accepted.
-/

/-! ### Refusals -/

/-- The secret that a call writes. -/
def SecretCall.record? : SecretCall → Option SecretRecord
  | create record => some record
  | replace record => some record
  | get _ _ => none

/-- The secret that an action writes. -/
def Action.record? (action : Action) : Option SecretRecord := action.secretCall?.bind SecretCall.record?

theorem Action.secret?_of_record? {action : Action} (h : action.record? = none) : action.secret? = none := by
  rw [record?] at h
  rw [secret?]
  cases hcall : action.secretCall? with
  | none => rfl
  | some call =>
    rw [hcall] at h
    cases call with
    | get ns name => rfl
    | create record => cases h
    | replace record => cases h

namespace Program

variable {S : Signature} {α σ : Type} {property : S.Op → Prop} {p : Program S α}

/-- Surroundings may be exchanged for others that answer no more to what a program asks for. -/
theorem Ensures.restrict_of_asks {conduct conduct' guarantee : Conduct S σ} {post : α → σ → Prop} {s : σ}
    (h : p.Ensures conduct guarantee post s) (hasks : p.Asks property)
    (hconduct : ∀ op s answer s', property op → conduct' op s answer s' → conduct op s answer s') :
    p.Ensures conduct' guarantee post s := by
  induction p generalizing s with
  | done => exact h
  | ask op resume ih =>
    intro answer s' hmove
    obtain ⟨hpromise, hrest⟩ := h answer s' (hconduct op s answer s' hasks.1 hmove)
    exact ⟨hpromise, ih answer hrest (hasks.2 answer)⟩

/-- Two handlers that answer alike what a program asks for give the same run. -/
theorem run_congr_of_asks {handle handle' : (op : S.Op) → σ → S.Answer op × σ} (hasks : p.Asks property)
    (hsame : ∀ op s, property op → handle op s = handle' op s) (s : σ) : p.run handle s = p.run handle' s := by
  induction p generalizing s with
  | done => rfl
  | ask op resume ih =>
    rw [run, run, hsame op s hasks.1]
    exact ih _ (hasks.2 _) _

end Program

namespace Systems

variable {refusal : Failure} {turn : Turn} {action : Action} {course : Course}

/-- A turn, but a secret that is not admitted is refused. -/
def strict (refusal : Failure) (turn : Turn) (action : Action) : Turn :=
  match action.record? with
  | none => turn
  | some record => if Kubernetes.Admitted record then turn else { turn with mishap := some (.before refusal) }

/-- Answers each action as its turn in a course says, but refuses the secrets that are not admitted. -/
def guarded (refusal : Failure) (course : Course) (action : Action) (s : Systems) : action.Answer × Systems :=
  s.answer (strict refusal (course s.turn) action) action

theorem strict_of_admitted (h : ∀ record, action.record? = some record → Kubernetes.Admitted record) :
    strict refusal turn action = turn := by
  rw [strict]
  split
  · rfl
  · rename_i record hrecord
    exact if_pos (h record hrecord)

theorem strict_of_not_admitted {record : SecretRecord} (hrecord : action.record? = some record)
    (h : ¬Kubernetes.Admitted record) :
    strict refusal turn action = { turn with mishap := some (.before refusal) } := by
  simp only [strict, hrecord, if_neg h]

/-- A call that fails beforehand leaves both systems alone. -/
theorem answer_of_before {failure : Failure} (h : turn.mishap = some (.before failure)) (action : Action)
    (s : Systems) : (s.answer turn action).2 = s.tick := by
  cases action with
  | call c => simp only [answer, attend, h]
  | watch c =>
    simp only [answer, attend, h]
    split <;> rfl
  | pause _ | cancelled | password | count _ => rfl

/-- The store stays as it is while no admitted secret is written. -/
theorem records_guarded (h : ∀ record, action.record? = some record → ¬Kubernetes.Admitted record) (s : Systems) :
    (guarded refusal course action s).2.secrets.records = s.secrets.records := by
  rw [guarded]
  cases hrecord : action.record? with
  | none => exact records_answer _ _ (Action.secret?_of_record? hrecord)
  | some record =>
    rw [strict_of_not_admitted hrecord (h record hrecord), answer_of_before rfl]
    rfl

end Systems

namespace Provision

open Systems

variable {T : Turn → Prop} {engine : Settings.Engine} {project uuid : String} {svm : Svm} {refusal : Failure}
  {course : Course} {s : Systems}

/-- What an action may come to at a store that refuses the secrets that are not admitted. -/
def admission (refusal : Failure) (T : Turn → Prop) : Program.Conduct actions Systems := fun action s answer s' =>
  ∃ turn, T turn ∧ (answer, s') = s.answer (strict refusal turn action) action

theorem conduct_of_admission {action : Action} {answer : action.Answer} {s' : Systems} (h : action.record? = none)
    (hadmission : admission refusal T action s answer s') : conduct T action s answer s' := by
  obtain ⟨turn, hturn, hpair⟩ := hadmission
  rw [strict_of_admitted fun record hrecord => by cases h.symm.trans hrecord] at hpair
  exact ⟨turn, hturn, hpair⟩

/-- Where no secret is written nothing is refused. -/
theorem ensures_admission {α : Type} {attempt : Attempt α} {guarantee : Program.Conduct actions Systems}
    {post : Except Failure α → Systems → Prop} (h : Program.Ensures (conduct T) guarantee post attempt.run s)
    (hasks : Program.Asks (S := actions) (fun action : Action => action.record? = none) attempt.run) :
    Program.Ensures (admission refusal T) Program.anyStep post attempt.run s :=
  Program.Ensures.mono (h.restrict_of_asks hasks fun _ _ _ _ hrecord => conduct_of_admission hrecord)
    (fun _ _ _ _ _ => trivial) fun _ _ => id

/-- The only secret that a reconciliation writes is that of its project. -/
theorem asks_reconcile_record {P : SecretRecord → Prop}
    (h : ∀ credentials, P (projectSecret engine project credentials)) :
    Program.Asks (S := actions) (fun action : Action => ∀ record, action.record? = some record → P record)
      (reconcile engine project svm).run := by
  refine asks_reconcile svm ?_ ?_ ?_ ?_ (fun credentials => ⟨?_, ?_⟩) ?_ ?_
  · rintro record ⟨⟩
  · rintro order - record ⟨⟩
  · rintro uuid - record ⟨⟩
  · rintro uuid - fresh record ⟨⟩
  · rintro record ⟨⟩
    exact h credentials
  · rintro record ⟨⟩
    exact h credentials
  · rintro record ⟨⟩
  · rintro record ⟨⟩

/-- A reconciliation at a store that refuses the secrets that are not admitted. -/
def reconcileGuarded (engine : Settings.Engine) (project : String) (svm : Svm) (refusal : Failure) (course : Course)
    (s : Systems) : Except Failure CredentialOutcome × Systems :=
  Program.run (S := actions) (guarded refusal course) (reconcile engine project svm).run s

/-- The systems after such reconciliations one after another. -/
def afterGuarded (engine : Settings.Engine) (project : String) (svm : Svm) (refusal : Failure)
    (courses : List Course) (s : Systems) : Systems :=
  courses.foldl (fun s course => (reconcileGuarded engine project svm refusal course s).2) s

/-! ### A secret that is admitted -/

section Admitted

variable (h : ∀ credentials, Kubernetes.Admitted (projectSecret engine project credentials))
include h

theorem run_guarded_of_admitted (course : Course) (s : Systems) :
    reconcileGuarded engine project svm refusal course s = s.run course (reconcile engine project svm) := by
  refine Program.run_congr_of_asks (asks_reconcile_record h) (fun action s hadmitted => ?_) s
  show s.answer (strict refusal (course s.turn) action) action = s.answer (course s.turn) action
  rw [strict_of_admitted hadmitted]

theorem agrees_afterGuarded (courses : List Course) (hagrees : Agrees engine project svm.uuid s) :
    Agrees engine project svm.uuid (afterGuarded engine project svm refusal courses s) := by
  induction courses generalizing s with
  | nil => exact hagrees
  | cons course rest ih =>
    apply ih
    show Agrees engine project svm.uuid (reconcileGuarded engine project svm refusal course s).2
    rw [run_guarded_of_admitted h]
    exact (run_of_ensures (T := fun _ => True) (ensures_reconcile engine project svm s) course
      fun _ => trivial).agrees hagrees

end Admitted

/-! ### A secret that is not admitted -/

section Refused

variable (h : ∀ credentials, ¬Kubernetes.Admitted (projectSecret engine project credentials))
include h

/-- No reconciliation changes what is stored, whatever befalls it. -/
theorem records_reconcileGuarded (course : Course) (s : Systems) :
    (reconcileGuarded engine project svm refusal course s).2.secrets.records = s.secrets.records := by
  have hasks : Program.Asks (S := actions) _ (reconcile engine project svm).run :=
    asks_reconcile_record (P := fun record => ¬Kubernetes.Admitted record) h
  have hkept := (hasks.ensures (fun action s answer s' => (answer, s') = guarded refusal course action s) s).keep
    (fun s' => s'.secrets.records = s.secrets.records) rfl ?_
  · exact (hkept.run fun _ _ => rfl).2
  · intro action s₁ answer s₂ hpair hwrites hsame
    have hafter : s₂ = (guarded refusal course action s₁).2 := congrArg Prod.snd hpair
    rw [hafter, records_guarded hwrites, hsame]

theorem records_afterGuarded (courses : List Course) (s : Systems) :
    (afterGuarded engine project svm refusal courses s).secrets.records = s.secrets.records := by
  induction courses generalizing s with
  | nil => rfl
  | cons course rest ih => exact (ih _).trans (records_reconcileGuarded h course s)

omit h in
theorem ensures_writeSecret_refused {record : SecretRecord} (hrecord : ¬Kubernetes.Admitted record) (stale : Bool)
    (s : Systems) :
    Program.Ensures (admission refusal T) Program.anyStep (fun result s' => result = .error refusal ∧ s' = s.tick)
      (writeSecret stale record).run s := by
  unfold writeSecret
  split
  all_goals
    rintro result s' ⟨turn, -, hpair⟩
    rw [strict_of_not_admitted rfl hrecord] at hpair
    obtain ⟨rfl, rfl⟩ := Prod.mk.inj hpair
    exact ⟨trivial, rfl, rfl⟩

/-- A reconciliation that finds no password, and with which nothing goes wrong before the secret is written, gives the
    account a fresh password and is refused. -/
theorem ensures_reconcile_refused (hfaultless : ∀ turn, T turn → turn.Faultless)
    (hrotate : engine.rotateOnMissingSecret = true) (hsvm : svm.uuid = some uuid)
    (hempty : secretPassword engine project s = none) :
    Program.Ensures (admission refusal T) Program.anyStep
      (fun result s' => result = .error refusal ∧ ∃ fresh, FreshPassword T engine uuid fresh s')
      (reconcile engine project svm).run s := by
  have haccount : Program.Asks (S := actions) (fun action : Action => action.record? = none)
      (ensureAccount engine svm.name uuid).run :=
    asks_ensureAccount svm.name (fun _ _ => rfl) rfl (fun _ => rfl) rfl rfl
  have hget : Program.Ensures (conduct T) (credentialSteps engine project svm.uuid) _
      (Engine.secrets (.get engine.secretNamespace (engine.secretName project))).run s := ensures_getSecret s
  unfold reconcile
  refine Program.Ensures.attempt _ (ensures_admission hget (.perform rfl)) ?_ ?_
  · rintro existing s₁ ⟨-, hstored, hexisting, -⟩
    obtain rfl : existing = storedSecret engine project s := hexisting existing rfl
    have hempty₁ : secretPassword engine project s₁ = none := by
      rw [secretPassword_eq, hstored, ← secretPassword_eq, hempty]
    have hnone : (storedSecret engine project s).filter (·.credentials.hasPassword) = none := by
      rw [secretPassword_eq] at hempty
      exact Option.map_eq_none_iff.1 hempty
    simp only [hnone]
    refine Program.Ensures.check ?_ ?_
    · intro owner howner
      obtain rfl : uuid = owner := Option.some.inj (hsvm.symm.trans (requireUuid_eq_ok_iff.1 howner))
      refine Program.Ensures.attempt _ (ensures_admission (ensures_ensureAccount svm.name hempty₁) haccount) ?_ ?_
      · rintro ⟨fresh, rotated⟩ s₂ hensured
        have hfresh := hensured.fresh fresh rotated rfl
        refine Program.Ensures.attempt _ (ensures_writeSecret_refused (h _) _ s₂) ?_ ?_
        · rintro value s₃ ⟨hok, -⟩
          cases hok
        · rintro failure s₃ ⟨herror, rfl⟩
          exact ⟨congrArg _ (Except.error.inj herror), fresh, hfresh.account, hfresh.handedOut⟩
      · intro failure s₂ hensured
        obtain ⟨_, herror⟩ := hensured.settled hfaultless hrotate
        cases herror
    · intro failure hfailure
      cases hfailure.symm.trans (requireUuid_eq_ok_iff.2 hsvm)
  · rintro failure s₁ ⟨-, -, -, hanswered⟩
    obtain ⟨value, herror⟩ := hanswered hfaultless
    cases herror

end Refused

/-! ### Requests that are accepted -/

/-- What a reconciliation comes to that is refused: the account has a password that the run was handed out, and the
    secret is as it was. -/
structure Lost (project uuid : String) (refusal : Failure) (course : Course) (s : Systems)
    (result : Except Failure CredentialOutcome) (s' : Systems) : Prop where
  refused : result = .error refusal
  account : ∃ n, adminPassword default uuid s' = some (course n).password
  secret : storedSecret default project s' = storedSecret default project s

theorem storedSecret_of_records {s' : Systems} (h : s'.secrets.records = s.secrets.records) :
    storedSecret engine project s' = storedSecret engine project s := by
  rw [storedSecret, storedSecret, MemorySecrets.stored, MemorySecrets.stored, h]

theorem lost_of_not_admitted (h : ∀ credentials, ¬Kubernetes.Admitted (projectSecret default project credentials))
    (hsvm : svm.uuid = some uuid) (hempty : secretPassword default project s = none)
    (hfaultless : ∀ n, (course n).Faultless) :
    Lost project uuid refusal course s (reconcileGuarded default project svm refusal course s).1
      (reconcileGuarded default project svm refusal course s).2 := by
  have hturns : ∀ turn, (∃ n, turn = course n) → turn.Faultless := by
    rintro turn ⟨n, rfl⟩
    exact hfaultless n
  have hguarded : ∀ (action : Action) s, admission refusal (fun turn => ∃ n, turn = course n) action s
      (guarded refusal course action s).1 (guarded refusal course action s).2 :=
    fun action s => ⟨course s.turn, ⟨_, rfl⟩, rfl⟩
  obtain ⟨hrefused, fresh, hfresh⟩ :=
    (ensures_reconcile_refused h hturns rfl hsvm hempty).run hguarded
  obtain ⟨_, ⟨n, rfl⟩, hpassword⟩ := hfresh.handedOut
  exact {
    refused := hrefused
    account := ⟨n, hpassword ▸ hfresh.account⟩
    secret := storedSecret_of_records (records_reconcileGuarded h course s) }

/-- **Which secrets can be stored.**  Of the requests that are accepted, Kubernetes takes the secrets of those whose
    project has a name that is a short subdomain.  After any number of reconciliations that began without a password
    in the secret, however they ended, one more with which nothing goes wrong stores the password of the account for
    these projects.  For all others it gives the account another password and loses it, every time. -/
theorem stored_iff_isProjectName {request : Request} (h : request.validate = .ok ()) (hsvm : svm.uuid = some uuid)
    (refusal : Failure) (hempty : secretPassword default request.projectId s = none) (earlier : List Course)
    (hsmooth : ∀ n, (course n).Smooth) :
    let before := afterGuarded default request.projectId svm refusal earlier s
    let run := reconcileGuarded default request.projectId svm refusal course before
    (∀ credentials, Kubernetes.Admitted (projectSecret default request.projectId credentials) ↔
        Kubernetes.IsProjectName request.projectId) ∧
      (Kubernetes.IsProjectName request.projectId → ∃ outcome, run.1 = .ok outcome ∧
        Held default request.projectId uuid outcome.credentials run.2) ∧
      (¬Kubernetes.IsProjectName request.projectId →
        Lost request.projectId uuid refusal course s run.1 run.2) := by
  intro before run
  have hadmitted : ∀ credentials, Kubernetes.Admitted (projectSecret default request.projectId credentials) ↔
      Kubernetes.IsProjectName request.projectId := fun _ =>
    Kubernetes.admitted_iff (Kubernetes.projectId_ne_empty h)
  refine ⟨hadmitted, fun hname => ?_, fun hname => ?_⟩
  · have hall := fun credentials => (hadmitted credentials).2 hname
    have hagrees : Agrees default request.projectId svm.uuid before :=
      agrees_afterGuarded hall earlier (.of_empty hempty)
    have hrun : run = before.run course (reconcile default request.projectId svm) :=
      run_guarded_of_admitted hall course before
    rw [hrun]
    exact run_of_ensures (ensures_reconcile_smooth rfl hsvm (hsvm ▸ hagrees)) course hsmooth
  · have hnone := fun credentials hall => hname ((hadmitted credentials).1 hall)
    have hsecret : storedSecret default request.projectId before = storedSecret default request.projectId s :=
      storedSecret_of_records (records_afterGuarded hnone earlier s)
    have hempty' : secretPassword default request.projectId before = none := by
      rw [secretPassword_eq, hsecret, ← secretPassword_eq, hempty]
    have hlost : Lost request.projectId uuid refusal course before run.1 run.2 :=
      lost_of_not_admitted hnone hsvm hempty' fun n => (hsmooth n).faultless
    exact { hlost with secret := hlost.secret.trans hsecret }

/-- What the server says when it refuses a name. -/
def invalidName : Failure :=
  .kubernetes (.refused ⟨"Failure", "Invalid value: a lowercase RFC 1123 subdomain must consist of " ++
    "lower case alphanumeric characters, '-' or '.'", "Invalid", 422⟩)

/-- The machine of a project. -/
def runningSvm (project : String) : Svm := ⟨project, some "uuid-a", .running, true, []⟩

/-- A request for a project. -/
def requestFor (project : String) : Request := ⟨project, [.v4 ⟨10, 0, 0, 1⟩], .v4 ⟨10, 0, 0, 9⟩⟩

/-- Of two requests that are accepted one has its password stored after a run that failed, and the other one loses
    two passwords. -/
theorem stored_tenant_lost_prod :
    ((requestFor "tenant-a").validate = .ok () ∧
        let before := afterGuarded default "tenant-a" (runningSvm "tenant-a") invalidName [lostRun.course] twoNodes
        let run := reconcileGuarded default "tenant-a" (runningSvm "tenant-a") invalidName smoothRun.course before
        ∃ outcome, run.1 = .ok outcome ∧ Held default "tenant-a" "uuid-a" outcome.credentials run.2) ∧
      (requestFor "tenant-a.prod_1").validate = .ok () ∧
        let before := afterGuarded default "tenant-a.prod_1" (runningSvm "tenant-a.prod_1") invalidName
          [smoothRun.course] twoNodes
        let run := reconcileGuarded default "tenant-a.prod_1" (runningSvm "tenant-a.prod_1") invalidName
          smoothRun.course before
        Lost "tenant-a.prod_1" "uuid-a" invalidName smoothRun.course twoNodes run.1 run.2 := by
  have hgenerated : Password.generate (List.replicate 15 0) = some ("0aaaaaa0", []) := by decide +kernel
  have hsmooth (n : Nat) : (smoothRun.course n).Smooth := ⟨rfl, rfl, _, _, hgenerated⟩
  have htenant : (requestFor "tenant-a").validate = .ok () := by rfl
  have hprod : (requestFor "tenant-a.prod_1").validate = .ok () := by rfl
  have huuid (project : String) : (runningSvm project).uuid = some "uuid-a" := rfl
  obtain ⟨-, hstored, -⟩ :=
    stored_iff_isProjectName (s := twoNodes) htenant (huuid _) invalidName rfl [lostRun.course] hsmooth
  obtain ⟨-, -, hlost⟩ :=
    stored_iff_isProjectName (s := twoNodes) hprod (huuid _) invalidName rfl [smoothRun.course] hsmooth
  exact ⟨⟨htenant, hstored (by decide +kernel)⟩, hprod, hlost (by decide +kernel)⟩

/-- A request with a dot and an underscore in the identifier of its project is accepted, but Kubernetes does not
    take the secret, and a reconciliation ends with an account whose password is stored nowhere. -/
theorem accepted_not_admitted :
    (requestFor "tenant-a.prod_1").validate = .ok () ∧
      ¬Kubernetes.Admitted (projectSecret default "tenant-a.prod_1" ⟨"vsadmin", "0aaaaaa0"⟩) ∧
      (reconcileGuarded default "tenant-a.prod_1" (runningSvm "tenant-a.prod_1") invalidName smoothRun.course
        twoNodes).1 = .error invalidName ∧
      adminPassword default "uuid-a" (reconcileGuarded default "tenant-a.prod_1" (runningSvm "tenant-a.prod_1")
        invalidName smoothRun.course twoNodes).2 = some "0aaaaaa0" := by
  refine ⟨rfl, ?_⟩
  decide +kernel

end Provision

end TenantStorage
