import TenantStorage.Proofs.Credentials.Steps
import TenantStorage.Proofs.SecretNames

namespace TenantStorage.Provision

open Systems

/-!
# Account and secret agree after any sequence of reconciliations

A fleet is served by one engine: every project has a machine of its own, and its credentials are reconciled
again and again, whatever befalls the calls.  A run may change the account and the secret of its own project
only, and the account only while the secret has no password.

* `Fleet` — projects and their machines; `Fleet.Run` — one reconciliation for one of them.
* `Fleet.Good` — the secrets agree with the accounts.
* `Fleet.after`, `Fleet.moves` — what a sequence of runs leads to, and its steps.
* `CredentialStep.agrees`, `CredentialStep.passwordOf` — what a step does not touch.
* `Fleet.Run.good`, `Fleet.Run.keepsPasswords` — one run.
* `Fleet.agreement_of_runs` — any number of runs.
-/

/-- Projects and their machines.  Different projects have machines with different identifiers. -/
structure Fleet where
  svm? : String → Option Svm
  distinct : ∀ {project project' : String} {svm svm' : Svm} {uuid : String},
    svm? project = some svm → svm? project' = some svm' → svm.uuid = some uuid →
      svm'.uuid = some uuid → project = project'

/-- One reconciliation for a project of a fleet, under a course of its own. -/
structure Fleet.Run (fleet : Fleet) where
  project : String
  /-- The machine as it was shown to the run. -/
  svm : Svm
  course : Course
  member : ∃ known, fleet.svm? project = some known ∧ svm.uuid = known.uuid

variable {engine : Settings.Engine}

/-! ### What a step does not touch -/

section CredentialStep

variable {project : String} {uuid? : Option String} {action : Action} {s : Systems}

/-- A step leaves the accounts of other machines alone, and all accounts while the secret has a password. -/
theorem CredentialStep.passwordOf (h : CredentialStep engine project uuid? action s) {uuid : String}
    (huuid : uuid? = some uuid → secretPassword engine project s ≠ none) (turn : Turn)
    (username : String) :
    (s.answer turn action).2.controller.passwordOf uuid username =
      s.controller.passwordOf uuid username := by
  refine MemoryController.passwordOf_eq_of_find? (find?_accounts_answer turn action fun hkey => ?_)
  obtain ⟨howner, -, hempty⟩ := h.account _ hkey
  exact huuid howner hempty

/-- A step leaves the secrets with other names alone. -/
theorem CredentialStep.secretPassword (h : CredentialStep engine project uuid? action s)
    {other : String} (hname : engine.secretName other ≠ engine.secretName project) (turn : Turn) :
    secretPassword engine other (s.answer turn action).2 = secretPassword engine other s := by
  refine MemorySecrets.passwordAt_eq_of_stored (find?_records_answer turn action fun hkey => ?_)
  exact hname (congrArg KeyPair.second (h.secret _ hkey))

/-- A step for one project keeps the agreement of another that has another machine. -/
theorem CredentialStep.agrees (h : CredentialStep engine project uuid? action s)
    {other : String} {other? : Option String}
    (hname : engine.secretName other ≠ engine.secretName project)
    (hother : ∀ uuid, other? = some uuid → uuid? ≠ some uuid) (turn : Turn)
    (hagrees : Agrees engine other other? s) :
    Agrees engine other other? (s.answer turn action).2 :=
  hagrees.congr (h.secretPassword hname turn) fun uuid huuid =>
    h.passwordOf (fun h => absurd h (hother uuid huuid)) turn engine.adminUsername

end CredentialStep

/-! ### Sequences of runs -/

namespace Fleet

variable (engine) (fleet : Fleet)

/-- Every secret of the fleet that has a password agrees with the account. -/
def Good (s : Systems) : Prop :=
  ∀ project svm, fleet.svm? project = some svm → Agrees engine project svm.uuid s

variable {fleet}

/-- The systems after a run. -/
def Run.after (run : fleet.Run) (s : Systems) : Systems :=
  (s.run run.course (reconcile engine run.project run.svm)).2

/-- The steps of a run. -/
def Run.moves (run : fleet.Run) (s : Systems) : List (Program.Move actions Systems) :=
  s.moves run.course (reconcile engine run.project run.svm)

/-- The systems after runs one after another. -/
def after (runs : List fleet.Run) (s : Systems) : Systems :=
  runs.foldl (fun s run => run.after engine s) s

/-- The steps of runs one after another. -/
def moves : List fleet.Run → Systems → List (Program.Move actions Systems)
  | [], _ => []
  | run :: rest, s => run.moves engine s ++ moves rest (run.after engine s)

/-- A step changes no account of a machine of the fleet while the secret has a password. -/
def KeepsPasswords (fleet : Fleet) (move : Program.Move actions Systems) : Prop :=
  ∀ project svm uuid, fleet.svm? project = some svm → svm.uuid = some uuid →
    secretPassword engine project move.before ≠ none → ∀ username,
      move.after.controller.passwordOf uuid username = move.before.controller.passwordOf uuid username

variable {engine}

/-! ### One run -/

/-- A run keeps every secret of the fleet in agreement: its own by what it does, the others because it does
    not touch them. -/
theorem Run.good (hvalid : engine.validate = .ok ()) (run : fleet.Run) {s : Systems}
    (hgood : fleet.Good engine s) : fleet.Good engine (run.after engine s) := by
  intro project svm hsvm
  have hensures := ensures_reconcile (T := fun _ => True) engine run.project run.svm s
  obtain ⟨known, hknown, huuid⟩ := run.member
  -- the run's own project by what the run does, the others by what it leaves alone
  by_cases hproject : project = run.project
  · subst hproject
    cases hknown.symm.trans hsvm
    have hreconciled := run_of_ensures hensures run.course fun _ => trivial
    rw [← huuid]
    exact hreconciled.agrees (huuid ▸ hgood _ _ hsvm)
  · have hkept := hensures.keep (Agrees engine project svm.uuid) (hgood _ _ hsvm) ?_
    · exact (run_of_ensures hkept run.course fun _ => trivial).2
    · rintro action s answer s' ⟨turn, -, hpair⟩ hstep hagrees
      obtain ⟨-, rfl⟩ := Prod.mk.inj hpair
      refine hstep.agrees ?_ ?_ turn hagrees
      · exact fun hname => hproject (Settings.Engine.secretName_injective hvalid hname)
      · intro uuid hother howner
        exact hproject (fleet.distinct hsvm hknown hother (huuid ▸ howner))

/-- No step of a run changes an account whose secret has a password. -/
theorem Run.keepsPasswords (run : fleet.Run) (s : Systems) :
    ∀ move ∈ run.moves engine s, KeepsPasswords engine fleet move := by
  intro move hmove project svm uuid hsvm huuid hpassword username
  obtain ⟨known, hknown, hshown⟩ := run.member
  have hensures := ensures_reconcile (T := fun _ => True) engine run.project run.svm s
  obtain ⟨⟨turn, -, hpair⟩, hstep⟩ :=
    moves_of_ensures hensures run.course (fun _ => trivial) move hmove
  obtain ⟨-, hafter⟩ := Prod.mk.inj hpair
  rw [hafter]
  refine hstep.passwordOf (fun howner => ?_) turn username
  -- the step writes an account of a machine of the fleet only for the run's own project
  obtain rfl : project = run.project := fleet.distinct hsvm hknown huuid (hshown ▸ howner)
  exact hpassword

/-! ### Any number of runs -/

/-- After any sequence of runs the secrets of the fleet agree with the accounts, and no step of any run has
    changed an account of a machine while the secret had a password. -/
theorem agreement_of_runs (hvalid : engine.validate = .ok ()) {s : Systems}
    (hgood : fleet.Good engine s) (runs : List fleet.Run) :
    fleet.Good engine (after engine runs s) ∧
      ∀ move ∈ moves engine runs s, KeepsPasswords engine fleet move := by
  induction runs generalizing s with
  | nil => exact ⟨hgood, by simp [moves]⟩
  | cons run rest ih =>
    obtain ⟨hafter, hmoves⟩ := ih (run.good hvalid hgood)
    refine ⟨hafter, fun move hmove => ?_⟩
    rcases List.mem_append.1 hmove with hmove | hmove
    · exact run.keepsPasswords s move hmove
    · exact hmoves move hmove

/-- Two projects with a machine each. -/
def pair : Fleet where
  svm? project :=
    if project = "tenant-a" then some ⟨project, some "uuid-a", .running, true, []⟩
    else if project = "tenant-b" then some ⟨project, some "uuid-b", .running, true, []⟩
    else none
  distinct := by
    intro project project' svm svm' uuid h h' huuid huuid'
    grind

/-- A run for the first of the two projects whose call number `n` takes effect and is reported as failed. -/
def pairRun (n : Nat) (password : String) : pair.Run where
  project := "tenant-a"
  svm := ⟨"tenant-a", some "uuid-a", .running, true, []⟩
  course := fun turn => ⟨if turn = n then some (.after default) else none, false, password⟩
  member := ⟨_, rfl, rfl⟩

/-- Two runs for the first of the two projects: the account is created, and the run told that it was not;
    then its password is replaced and stored, and the run told that it was not stored. -/
def pairRuns : List pair.Run := [pairRun 2 "first", pairRun 10 "second"]

/-- Systems with neither accounts nor secrets. -/
def untouched : Systems := ⟨.initial, .empty, 0⟩

theorem agreement_of_pairRuns :
    (default : Settings.Engine).validate = .ok () ∧
      pair.Good default untouched ∧
      pair.Good default (after default pairRuns untouched) ∧
      (∀ move ∈ moves default pairRuns untouched, KeepsPasswords default pair move) ∧
      secretPassword default "tenant-a" (after default pairRuns untouched) = some "second" := by
  have hvalid : (default : Settings.Engine).validate = .ok () := by rfl
  have hgood : pair.Good default untouched := fun project svm _ => .of_empty rfl
  obtain ⟨hafter, hmoves⟩ := agreement_of_runs hvalid hgood pairRuns
  exact ⟨hvalid, hgood, hafter, hmoves, by decide⟩

end Fleet

end TenantStorage.Provision
