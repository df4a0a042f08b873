import TenantStorage.Proofs.Provision.Steps
import TenantStorage.Proofs.Talk

namespace TenantStorage.Provision

/-!
# What the parts of a run may ask for

The parts of a run ask for nothing but the actions that are named here, whatever is answered.

* `asks_selectNodes` — the nodes.
* `asks_orderSvm`, `asks_lookAtSvm`, `asks_lookAgain`, `asks_awaitSvm` — the machine.
* `asks_createInterfaces`, `asks_allocate` — the interfaces.
* `asks_ensureAccount`, `asks_writeSecret`, `asks_reconcile` — the credentials.
-/

variable {property : Action → Prop} {project : String}

theorem asks_within {α : Type} {attempt : Attempt α} {operation : String}
    (h : Program.Asks (S := actions) property attempt.run) :
    Program.Asks (S := actions) property (Engine.within project operation attempt).run :=
  h.bind fun _ => trivial

theorem asks_selectNodes (hnodes : property (.call (.controller .nodes))) :
    Program.Asks (S := actions) property selectNodes.run := by
  unfold selectNodes
  refine .attempt (.perform hnodes) fun nodes => ?_
  simp only
  split <;> trivial

/-! ### The machine -/

theorem asks_orderSvm (haggregates : property (.call (.controller .aggregates)))
    (hcreate : ∀ order : Svm.Order, order.name = project → property (.call (.controller (.createSvm order))))
    (hcount : property (.count .svmCreated)) :
    Program.Asks (S := actions) property (orderSvm project).run := by
  unfold orderSvm
  refine .attempt (asks_within (.perform haggregates)) fun aggregates => ?_
  refine .attempt (asks_within (.perform (hcreate _ rfl))) fun _ => ?_
  exact Program.Asks.bind (.perform hcount) fun _ => trivial

section Wait

variable (hname : property (.watch (.controller (.svmByName project))))
  (huuid : ∀ uuid, property (.watch (.controller (.svm uuid))))
include hname huuid

theorem asks_lookAtSvm : Program.Asks (S := actions) property (lookAtSvm project) := by
  unfold lookAtSvm
  refine Program.Asks.bind (.perform hname) fun seen => ?_
  rcases seen with _ | failure | _ | found
  · trivial
  · trivial
  · trivial
  · cases hfound : found.uuid with
    | none =>
      simp only [hfound]
      trivial
    | some uuid =>
      simp only [hfound]
      refine Program.Asks.bind (.perform (huuid uuid)) fun shown => ?_
      rcases shown with _ | failure | svm <;> trivial

theorem asks_lookAgain {duration : Duration} (hpause : property (.pause duration)) (pauses attempts : Nat) :
    Program.Asks (S := actions) property
      (RetryPolicy.lookAgain (engineTimer.pause duration) (lookAtSvm project) pauses attempts) := by
  -- by induction on the pauses that are left; `attempts` grows as they get fewer
  induction pauses generalizing attempts with
  | zero =>
    unfold RetryPolicy.lookAgain
    refine (asks_lookAtSvm hname huuid).bind fun seen => ?_
    rcases seen with _ | failure | svm | condition <;> trivial
  | succ pauses ih =>
    unfold RetryPolicy.lookAgain
    refine (asks_lookAtSvm hname huuid).bind fun seen => ?_
    rcases seen with _ | failure | svm | condition
    · trivial
    · trivial
    · trivial
    · refine Program.Asks.bind (.perform hpause) fun going => ?_
      cases going with
      | true => exact ih (attempts + 1)
      | false => trivial

theorem asks_awaitSvm {policy : RetryPolicy} (hcancelled : property .cancelled)
    (hpause : property (.pause policy.maxDelay)) (hcount : ∀ attempts, property (.count (.readiness attempts))) :
    Program.Asks (S := actions) property (awaitSvm policy project).run := by
  unfold awaitSvm RetryPolicy.poll
  rw [ExceptT.run_mk]
  refine Program.Asks.bind (Program.Asks.bind (.perform hcancelled) fun cancelled => ?_) fun polled => ?_
  · split
    · trivial
    · exact asks_lookAgain hname huuid hpause _ _
  · match polled with
    | .ready _ attempts | .exhausted attempts _ =>
      exact Program.Asks.bind (.perform (hcount attempts)) fun _ => trivial
    | .failed _ | .cancelled => trivial

end Wait

/-! ### The interfaces -/

theorem asks_createInterface {interface : Interface}
    (hcreate : property (.call (.controller (.createInterface interface))))
    (hcount : property (.count (.interfaceCreated interface.role))) :
    Program.Asks (S := actions) property (createInterface interface).run := by
  unfold createInterface
  refine Program.Asks.bind (.perform hcreate) fun result => ?_
  match result with
  | .ok () => exact Program.Asks.bind (.perform hcount) fun _ => trivial
  | .error failure =>
    simp only
    split <;> trivial

theorem asks_createInterfaces {interfaces : List Interface}
    (hcreate : ∀ interface ∈ interfaces, property (.call (.controller (.createInterface interface))))
    (hcount : ∀ role, property (.count (.interfaceCreated role))) :
    Program.Asks (S := actions) property (createInterfaces interfaces).run := by
  induction interfaces with
  | nil => trivial
  | cons interface rest ih =>
    obtain ⟨hfirst, hrest⟩ := List.forall_mem_cons.1 hcreate
    unfold createInterfaces
    exact .attempt (asks_createInterface hfirst (hcount _)) fun _ => ih hrest

theorem asks_allocate {engine : Settings.Engine} {request : EndpointRequest} {nodes : List Node}
    (hpeers : property (.call (.controller .peerGroups)))
    (hcreate : ∀ interface : Interface, interface.svmUuid = request.svmUuid →
      property (.call (.controller (.createInterface interface))))
    (hcount : ∀ role, property (.count (.interfaceCreated role))) :
    Program.Asks (S := actions) property (allocate engine request nodes).run := by
  unfold allocate probeAddressing
  refine .attempt (.attempt (.perform hpeers) fun _ => trivial) fun mode => ?_
  refine .check fun interfaces hplan => ?_
  refine .attempt (asks_createInterfaces (fun interface hmem => ?_) hcount) fun _ => trivial
  exact hcreate interface ((names_plan hplan).2 interface hmem)

/-! ### The credentials -/

section Credentials

variable {engine : Settings.Engine} {uuid : String}

theorem asks_rotatePassword (svmName : String)
    (haccount : property (.call (.controller (.account uuid engine.adminUsername))))
    (hset : ∀ fresh, property (.call (.controller (.setPassword uuid engine.adminUsername fresh))))
    (hpassword : property .password) (hcount : property (.count .rotation)) :
    Program.Asks (S := actions) property (rotatePassword engine svmName uuid).run := by
  unfold rotatePassword
  refine .attempt (.perform haccount) fun found => ?_
  match found with
  | none => trivial
  | some _ =>
    simp only
    split
    · trivial
    · exact .lift (.perform hpassword) fun fresh =>
        .attempt (.perform (hset fresh)) fun _ => .lift (.perform hcount) fun _ => trivial

theorem asks_ensureAccount (svmName : String)
    (hcreate : ∀ order : Account.Order, order.ownerUuid = uuid →
      property (.call (.controller (.createAccount order))))
    (haccount : property (.call (.controller (.account uuid engine.adminUsername))))
    (hset : ∀ fresh, property (.call (.controller (.setPassword uuid engine.adminUsername fresh))))
    (hpassword : property .password) (hcount : property (.count .rotation)) :
    Program.Asks (S := actions) property (ensureAccount engine svmName uuid).run := by
  unfold ensureAccount createAccount
  refine .attempt ?_ fun found => ?_
  · refine Program.Asks.bind (.perform hpassword) fun fresh => ?_
    refine Program.Asks.bind (.perform (hcreate _ rfl)) fun result => ?_
    match result with
    | .ok () => trivial
    | .error failure =>
      simp only
      split <;> trivial
  · match found with
    | some _ => trivial
    | none =>
      exact .attempt (asks_rotatePassword svmName haccount hset hpassword hcount) fun _ => trivial

theorem asks_writeSecret {record : SecretRecord} (stale : Bool)
    (hcreate : property (.call (.secrets (.create record))))
    (hreplace : property (.call (.secrets (.replace record)))) :
    Program.Asks (S := actions) property (writeSecret stale record).run := by
  unfold writeSecret
  split
  · exact .perform hreplace
  · exact .perform hcreate

theorem asks_reconcile (svm : Svm)
    (hget : property (.call (.secrets (.get engine.secretNamespace (engine.secretName project)))))
    (hcreate : ∀ order : Account.Order, svm.uuid = some order.ownerUuid →
      property (.call (.controller (.createAccount order))))
    (haccount : ∀ uuid, svm.uuid = some uuid →
      property (.call (.controller (.account uuid engine.adminUsername))))
    (hset : ∀ uuid, svm.uuid = some uuid → ∀ fresh,
      property (.call (.controller (.setPassword uuid engine.adminUsername fresh))))
    (hwrite : ∀ credentials,
      property (.call (.secrets (.create (projectSecret engine project credentials)))) ∧
        property (.call (.secrets (.replace (projectSecret engine project credentials)))))
    (hpassword : property .password) (hcount : property (.count .rotation)) :
    Program.Asks (S := actions) property (reconcile engine project svm).run := by
  unfold reconcile
  refine .attempt (.perform hget) fun existing => ?_
  simp only
  split
  · trivial
  · refine .check fun uuid hrequired => ?_
    have huuid : svm.uuid = some uuid := requireUuid_eq_ok_iff.1 hrequired
    refine .attempt (asks_ensureAccount svm.name (fun order howner => ?_) (haccount uuid huuid)
      (hset uuid huuid) hpassword hcount) fun _ => ?_
    · exact hcreate order (howner ▸ huuid)
    · exact .attempt (asks_writeSecret _ (hwrite _).1 (hwrite _).2) fun _ => trivial

end Credentials

end TenantStorage.Provision
