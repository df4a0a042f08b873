import TenantStorage.Proofs.Provision.Isolation

namespace TenantStorage.Provision

open Systems

/-!
# A run that is repeated changes nothing

A run that succeeds leaves a state in which everything that it would do is done.  From such a state another run
finds the machine, its interfaces and the password, and returns what is there.

* `SameContents` — two states that differ in nothing but tallies, the accepted orders included.
* `Equipped`, `Complete` — the machine and its interfaces are there; so is the password.
* `Turn.Truthful` — what may befall the first run.
* `ensures_steps_complete` — a run that succeeds leaves everything complete.
* `ensures_steps_again` — a run from there returns what is there, and changes nothing.
* `repeats_of_result` — any number of runs after one that succeeded.
-/

variable {T : Turn → Prop} {project uuid : String} {engine : Settings.Engine} {action : Action}
  {request : Request} {svm : Svm} {interfaces : List Interface} {outcome : Outcome} {s s' s'' : Systems}

/-! ### What is there -/

/-- Two states that differ in nothing but tallies. -/
structure SameContents (s s' : Systems) : Prop extends Alike s s' where
  orders : s'.controller.orders = s.controller.orders

theorem SameContents.refl (s : Systems) : SameContents s s where
  setup := .refl _
  machines := rfl
  assigned := rfl
  interfaces := rfl
  accounts := rfl
  records := rfl
  orders := rfl

theorem SameContents.tick (s : Systems) : SameContents s s.tick where
  toAlike := .tick s
  orders := rfl

theorem SameContents.trans (h : SameContents s s') (h' : SameContents s' s'') : SameContents s s'' where
  setup := h.setup.trans h'.setup
  machines := h'.machines.trans h.machines
  assigned := h'.assigned.trans h.assigned
  interfaces := h'.interfaces.trans h.interfaces
  accounts := h'.accounts.trans h.accounts
  records := h'.records.trans h.records
  orders := h'.orders.trans h.orders

/-- An interface that is there is there in the same contents. -/
theorem SameContents.established {interface : Interface} (h : SameContents s s')
    (hthere : MemoryController.Established interface s.controller) :
    MemoryController.Established interface s'.controller where
  there := by
    rw [MemoryController.hasInterface, h.interfaces]
    exact hthere.there
  allowed := by
    rw [h.setup.failingInterfaces]
    exact hthere.allowed

/-- An action that writes nothing leaves the contents as they are. -/
theorem Reads.sameContents (h : Reads action) (turn : Turn) (s : Systems) :
    SameContents s (s.answer turn action).2 where
  toAlike := h.alike turn s
  orders := orders_answer turn action (by simp [h.part])

/-- What only reads leaves the contents as they are. -/
theorem ensures_sameContents {α : Type} {p : Engine α} {post : α → Systems → Prop}
    (h : p.Ensures (conduct T) readings post s) :
    p.Ensures (conduct T) Program.anyStep (fun value s' => post value s' ∧ SameContents s s') s := by
  refine (h.keep (SameContents s) (.refl s) ?_).mono (fun _ _ _ _ _ => trivial) fun _ _ => id
  rintro action s₁ answer s₂ ⟨turn, -, hpair⟩ hreads hsame
  obtain ⟨-, rfl⟩ := Prod.mk.inj hpair
  exact hsame.trans (Reads.sameContents hreads turn s₁)

/-- There are nodes enough, the project has its machine, and the machine has the interfaces that are planned. -/
structure Equipped (engine : Settings.Engine) (request : Request) (svm : Svm) (interfaces : List Interface)
    (s : Systems) : Prop where
  nodes : minNodes ≤ (distinctNodes s.controller.nodes).length
  machine : s.controller.svmByName request.projectId = some svm
  planned : ∃ uuid, svm.uuid = some uuid ∧
    (EndpointRequest.mk uuid request.dataIps request.managementIp).plan engine
      (distinctNodes s.controller.nodes) (.ofPeerGroups s.controller.peerGroups) = .ok interfaces
  connected : ∀ interface ∈ interfaces, MemoryController.Established interface s.controller

/-- A step that neither orders a machine nor looks at one by identifier takes nothing away. -/
theorem Equipped.answer (h : Equipped engine request svm interfaces s)
    (hpart : action.part? ≠ some .machines) (turn : Turn) :
    Equipped engine request svm interfaces (s.answer turn action).2 := by
  have hsetup := sameSetup_answer turn action s
  exact {
    nodes := by
      rw [hsetup.nodes]
      exact h.nodes
    machine := by
      rw [MemoryController.svmByName, (machines_answer turn action hpart).1]
      exact h.machine
    planned := by
      rw [hsetup.nodes, hsetup.peerGroups]
      exact h.planned
    connected := fun interface hmem => controller_answer_of turn action (h.connected interface hmem)
      fun call _ => (MemoryController.becomes_perform call _).established (h.connected interface hmem) }

/-- Everything that a request asks for is there, as an outcome tells. -/
structure Complete (engine : Settings.Engine) (request : Request) (outcome : Outcome) (s : Systems) : Prop where
  valid : request.validate = .ok ()
  equipped : Equipped engine request outcome.svm outcome.interfaces s
  secret : ∃ record, storedSecret engine request.projectId s = some record ∧
    record.credentials = outcome.credentials.credentials ∧ record.credentials.hasPassword = true

theorem Complete.of_sameContents (h : Complete engine request outcome s) (hsame : SameContents s s') :
    Complete engine request outcome s' where
  valid := h.valid
  equipped := {
    nodes := by
      rw [hsame.setup.nodes]
      exact h.equipped.nodes
    machine := by
      rw [MemoryController.svmByName, hsame.machines]
      exact h.equipped.machine
    planned := by
      rw [hsame.setup.nodes, hsame.setup.peerGroups]
      exact h.equipped.planned
    connected := fun interface hmem => hsame.established (h.equipped.connected interface hmem) }
  secret := by
    rw [storedSecret, MemorySecrets.stored, hsame.records]
    exact h.secret

/-! ### A run that succeeds -/

/-- What is ensured whatever befalls the calls is ensured while machines have different identifiers. -/
theorem ensures_distinct {α : Type} {p : Engine α} (guarantee : Program.Conduct actions Systems)
    {post : α → Systems → Prop} (h : p.Ensures (conduct T) guarantee post s) :
    p.Ensures (distinct T) Program.anyStep post s :=
  (h.restrict fun _ _ _ _ => And.left).mono (fun _ _ _ _ _ => trivial) fun _ _ => id

/-- A machine that is shown by the identifier of the project's machine is the project's. -/
theorem svmByName_shown {found svm : Svm}
    (hseen : distinct T (.watch (.controller (.svmByName project))) s (some (.ok (some found))) s')
    (huuid : found.uuid = some uuid)
    (hshown : distinct T (.watch (.controller (.svm uuid))) s' (some (.ok svm)) s'') :
    s''.controller.svmByName project = some svm := by
  have hfound : s.controller.svmByName project = some found := (svmByName_watched hseen.1).symm
  -- the first look has changed no machine
  have hfound' : s'.controller.svmByName project = some found := by
    rw [MemoryController.svmByName, (Reads.alike_of_conduct ⟨rfl, rfl⟩ hseen.1).machines]
    exact hfound
  obtain ⟨machine, hmachine, rfl⟩ := Option.map_eq_some_iff.1 hfound'
  obtain ⟨hconduct, hdistinct⟩ := hshown
  rcases watch_cases hconduct with ⟨hnone, -⟩ | ⟨turn, -, hanswer, rfl⟩
  · cases hnone
  · obtain ⟨hok, hafter⟩ := attend_of_ok (Option.some.inj hanswer).symm
    rw [hafter] at hdistinct ⊢
    have hunshared : s'.controller.Unshared project uuid :=
      (MemoryController.becomes_perform (.svm uuid) _).uuidsDistinct hdistinct project uuid
        ((MemoryController.uuidOf_of_find? hmachine).trans huuid)
    obtain ⟨hlook, hnew⟩ := MemoryController.svm_of_find? hmachine huuid hunshared
    obtain rfl : (s'.controller.advance machine).svm = svm := Except.ok.inj (hlook.symm.trans hok)
    exact congrArg (Option.map MemoryController.Machine.svm) hnew

/-- A look that finds the machine ready shows it as it is then. -/
theorem ensures_lookAtSvm_shown (s : Systems) :
    (lookAtSvm project).Ensures (distinct T) Program.anyStep
      (fun seen s' => ∀ svm, seen = some (.ok (.ready svm)) →
        s'.controller.svmByName project = some svm) s := by
  unfold lookAtSvm
  rw [Program.ensures_bind]
  refine ensures_watch fun seen s₁ hseen => ⟨trivial, ?_⟩
  match seen with
  | none | some (.error _) | some (.ok none) => rintro _ ⟨⟩
  | some (.ok (some found)) =>
    cases huuid : found.uuid with
    | none =>
      simp only [huuid]
      rintro _ ⟨⟩
    | some uuid =>
      simp only [huuid, Program.ensures_bind]
      refine ensures_watch fun shown s₂ hshown => ⟨trivial, ?_⟩
      match shown with
      | none | some (.error _) => rintro _ ⟨⟩
      | some (.ok svm) =>
        have hsvm := svmByName_shown hseen huuid hshown
        cases hready : svm.isReady with
        | false =>
          simp only [probeOf, hready]
          rintro _ ⟨⟩
        | true =>
          simp only [probeOf, hready, if_true]
          rintro _ ⟨⟩
          exact hsvm

theorem ensures_awaitSvm_shown (policy : RetryPolicy) (s : Systems) :
    Program.Ensures (distinct T) Program.anyStep
      (fun result s' => ∀ svm, result = .ok svm → s'.controller.svmByName project = some svm)
      (awaitSvm policy project).run s := by
  have hquiet (action : Action) (s : Systems) : Program.Ensures (distinct T) Program.anyStep
      (fun _ _ => True) (Program.perform (S := actions) action) s :=
    fun _ _ _ => ⟨trivial, trivial⟩
  have hwait : (policy.poll engineTimer (lookAtSvm project)).Ensures (distinct T) Program.anyStep
      (fun polled s' => ∀ svm attempts, polled = .ready svm attempts →
        s'.controller.svmByName project = some svm) s :=
    RetryPolicy.ensures_poll_found policy (hquiet .cancelled) ensures_lookAtSvm_shown (hquiet (.pause _)) s
  unfold awaitSvm
  rw [ExceptT.run_mk, Program.ensures_bind]
  refine hwait.imp fun polled s₁ hfound => ?_
  match polled with
  | .ready svm attempts =>
    rw [Program.ensures_bind]
    refine ensures_distinct Program.anyStep (ensures_count ⟨trivial, ?_⟩)
    rintro _ ⟨⟩
    exact hfound svm attempts rfl
  | .exhausted attempts condition =>
    rw [Program.ensures_bind]
    refine ensures_distinct Program.anyStep (ensures_count ⟨trivial, ?_⟩)
    rintro _ ⟨⟩
  | .failed _ | .cancelled => rintro _ ⟨⟩

/-- The machine that a run goes on with is the project's, as it is then. -/
theorem ensures_ensureSvm_shown (engine : Settings.Engine) (s : Systems) :
    Program.Ensures (distinct T) Program.anyStep
      (fun result s' => ∀ svm created, result = .ok (svm, created) →
        s'.controller.svmByName project = some svm)
      (ensureSvm engine project).run s := by
  unfold ensureSvm
  refine Program.Ensures.attempt (fun result s' => ∀ found, result = .ok found →
    found = s'.controller.svmByName project) ?_ ?_ ?_
  · refine ensures_within (ensures_distinct readings ((ensures_read ⟨rfl, rfl⟩ rfl).imp ?_))
    rintro result s₁ ⟨halike, hvalue, -⟩ found hok
    cases result with
    | ok value =>
      cases hok
      rw [hvalue found rfl, MemoryController.svmByName, MemoryController.svmByName, halike.machines]
    | error failure => cases hok
  · intro found s₁ hfound
    rcases found with _ | svm
    · refine Program.Ensures.attempt (fun _ _ => True) ?_ ?_ (fun _ _ _ => by rintro _ _ ⟨⟩)
      · exact (ensures_distinct _ (ensures_orderSvm s₁)).imp fun _ _ _ => trivial
      · intro _ s₂ _
        refine Program.Ensures.attempt (fun result s' => ∀ svm, result = .ok svm →
          s'.controller.svmByName project = some svm) ?_ ?_ (fun _ _ _ => by rintro _ _ ⟨⟩)
        · refine ensures_within ((ensures_awaitSvm_shown _ s₂).imp fun result s₃ hshown svm hok => ?_)
          cases result with
          | ok found => exact hshown svm hok
          | error failure => cases hok
        · intro svm s₃ hshown
          rintro _ _ ⟨⟩
          exact hshown svm rfl
    · rintro _ _ ⟨⟩
      exact (hfound _ rfl).symm
  · rintro failure s₁ - _ _ ⟨⟩

/-- An interface that is created, or that is said to exist, is there. -/
theorem ensures_createInterface_there (interface : Interface) (s : Systems) :
    Program.Ensures (conduct Turn.Truthful) Program.anyStep
      (fun result s' => result = .ok () → MemoryController.Established interface s'.controller)
      (createInterface interface).run s := by
  unfold createInterface
  rw [ExceptT.run_mk, Program.ensures_bind]
  refine ensures_call fun turn hturn => ⟨trivial, ?_⟩
  cases hanswer : (attend turn.mishap (.controller (.createInterface interface)) s).1 with
  | ok value =>
    obtain ⟨hok, hafter⟩ := attend_of_ok hanswer
    rw [Program.ensures_bind, hafter]
    refine ensures_count ⟨trivial, fun _ => MemoryController.established_of_createInterface ?_⟩
    intro failure hfailure
    cases hok.symm.trans hfailure
  | error failure =>
    by_cases hexists : failure.isAlreadyExists = true
    · obtain ⟨herror, hafter⟩ := attend_of_alreadyExists hturn hanswer hexists
      simp only [hexists, if_true, hafter]
      intro _
      refine MemoryController.established_of_createInterface fun failure' hfailure => ?_
      obtain rfl : failure = failure' := Except.error.inj (herror.symm.trans hfailure)
      exact hexists
    · simp only [hexists]
      rintro ⟨⟩

theorem ensures_createInterfaces_there (interfaces : List Interface) (s : Systems) :
    Program.Ensures (conduct Turn.Truthful) Program.anyStep
      (fun result s' => result = .ok () →
        ∀ interface ∈ interfaces, MemoryController.Established interface s'.controller)
      (createInterfaces interfaces).run s := by
  -- by induction on the list; an interface that is there stays while the others follow
  induction interfaces generalizing s with
  | nil => exact fun _ => by simp
  | cons interface rest ih =>
    unfold createInterfaces
    refine Program.Ensures.attempt _ (ensures_createInterface_there interface s) ?_
      (fun _ _ _ => by rintro ⟨⟩)
    intro _ s₁ hfirst
    refine (ensures_keeps (MemoryController.Established interface)
      (fun call c => (MemoryController.becomes_perform call c).established) (hfirst rfl) (ih s₁)).imp ?_
    rintro result s₂ ⟨hrest, hthere⟩ hok
    exact List.forall_mem_cons.2 ⟨hthere, hrest hok⟩

theorem ensures_allocate_there (engine : Settings.Engine) (request : EndpointRequest) (nodes : List Node)
    (s : Systems) :
    Program.Ensures (conduct Turn.Truthful) Program.anyStep
      (fun result s' => ∀ interfaces, result = .ok interfaces →
        request.plan engine nodes (.ofPeerGroups s.controller.peerGroups) = .ok interfaces ∧
          ∀ interface ∈ interfaces, MemoryController.Established interface s'.controller)
      (allocate engine request nodes).run s := by
  unfold allocate probeAddressing
  refine Program.Ensures.attempt (fun result _ => ∀ mode, result = .ok mode →
    mode = .ofPeerGroups s.controller.peerGroups) ?_ ?_ (fun _ _ _ => by rintro _ ⟨⟩)
  · have hcount : (s.controller.perform .peerGroups).1 = .ok s.controller.peerGroups := rfl
    refine Program.Ensures.attempt _ ((ensures_read ⟨rfl, rfl⟩ hcount).mono
      (fun _ _ _ _ _ => trivial) fun _ _ => id) ?_ (fun _ _ _ => by rintro _ ⟨⟩)
    rintro count s₁ ⟨-, hvalue, -⟩ mode ⟨⟩
    rw [hvalue count rfl]
  · intro mode s₁ hmode
    obtain rfl := hmode mode rfl
    refine Program.Ensures.check ?_ (fun _ _ => by rintro _ ⟨⟩)
    intro interfaces hplan
    refine Program.Ensures.attempt _ (ensures_createInterfaces_there interfaces s₁) ?_
      (fun _ _ _ => by rintro _ ⟨⟩)
    rintro _ s₂ hthere _ ⟨⟩
    exact ⟨hplan, hthere rfl⟩

/-- A run that succeeds leaves everything complete. -/
theorem ensures_steps_complete (engine : Settings.Engine) (request : Request) (s : Systems) :
    Program.Ensures (distinct Turn.Truthful) Program.anyStep
      (fun result s' => ∀ outcome, result = .ok outcome → Complete engine request outcome s')
      (request.steps engine).run s := by
  refine ensures_steps
    (fun nodes s => request.validate = .ok () ∧ nodes = distinctNodes s.controller.nodes ∧
      minNodes ≤ nodes.length)
    (fun nodes svm _ s => (request.validate = .ok () ∧ nodes = distinctNodes s.controller.nodes ∧
      minNodes ≤ nodes.length) ∧ s.controller.svmByName request.projectId = some svm)
    (fun svm _ interfaces s => request.validate = .ok () ∧ Equipped engine request svm interfaces s)
    (fun _ _ => by rintro _ ⟨⟩) ?_ ?_ (fun _ _ _ _ _ _ _ => by rintro _ ⟨⟩) ?_ ?_
  · intro hvalid
    refine (ensures_distinct _ (ensures_selectNodes s)).imp fun result s₁ hselected => ?_
    refine ⟨fun nodes hok => ?_, fun _ _ _ => by rintro _ ⟨⟩⟩
    rw [hselected.alike.setup.nodes]
    exact ⟨hvalid, hselected.nodes nodes hok⟩
  · intro nodes s₁ hselected
    refine ((ensures_ensureSvm_shown engine s₁).and
      (ensures_distinct _ (ensures_setup (ensures_identified engine s₁)))).mono
      (fun _ _ _ _ _ => trivial) fun result s₂ h => ⟨?_, fun _ _ _ => by rintro _ ⟨⟩⟩
    obtain ⟨hshown, -, hsetup⟩ := h
    rintro ⟨svm, created⟩ hok
    refine ⟨?_, hshown svm created hok⟩
    rw [hsetup.nodes]
    exact hselected
  · intro nodes svm created s₂ hprovided uuid huuid
    obtain ⟨⟨hvalid, rfl, hnodes⟩, hmachine⟩ := hprovided
    -- the machine stays, as only interfaces are created
    have hkept := (ensures_setup (ensures_allocate (T := Turn.Truthful) engine
      ⟨uuid, request.dataIps, request.managementIp⟩ (distinctNodes s₂.controller.nodes) s₂)).keep
      (fun s => s.controller.svmByName request.projectId = some svm) hmachine
      fun action _ _ _ hconduct hstep h =>
        (svmByName_conduct hconduct fun hpart => by cases hstep.part _ hpart).trans h
    have hthere := ensures_allocate_there engine ⟨uuid, request.dataIps, request.managementIp⟩
      (distinctNodes s₂.controller.nodes) s₂
    refine (ensures_distinct _ (hthere.and hkept)).imp fun result s₃ h =>
      ⟨fun interfaces hok => ?_, fun _ _ _ => by rintro _ ⟨⟩⟩
    obtain ⟨hthere, ⟨-, hsetup⟩, hmachine⟩ := h
    obtain ⟨hplan, hconnected⟩ := hthere interfaces hok
    exact ⟨hvalid, {
      nodes := hsetup.nodes ▸ hnodes
      machine := hmachine
      planned := by
        rw [hsetup.nodes, hsetup.peerGroups]
        exact ⟨uuid, huuid, hplan⟩
      connected := hconnected }⟩
  · intro svm created interfaces s₃ hallocated
    obtain ⟨hvalid, hequipped⟩ := hallocated
    have hkept := (ensures_reconcile (T := Turn.Truthful) engine request.projectId svm s₃).keep
      (Equipped engine request svm interfaces) hequipped fun action s answer s' hconduct hstep h => by
        obtain ⟨turn, -, hpair⟩ := hconduct
        obtain ⟨-, rfl⟩ := Prod.mk.inj hpair
        exact h.answer (fun hpart => by cases hstep.part _ hpart) turn
    refine (ensures_distinct _ hkept).imp fun result s₄ h =>
      ⟨fun credentials hok => ?_, fun _ _ _ => by rintro _ ⟨⟩⟩
    obtain ⟨hreconciled, hequipped⟩ := h
    rintro _ ⟨⟩
    exact {
      valid := hvalid
      equipped := hequipped
      secret := hreconciled.stored credentials hok fun _ => Turn.Truthful.password }

/-- A run that succeeds leaves everything complete, if machines have different identifiers at its end. -/
theorem complete_of_result {first : Course} (hfirst : ∀ n, (first n).Truthful)
    (hok : Attempted.result engine ⟨request, first⟩ s = .ok outcome)
    (hdistinct : (Attempted.final engine ⟨request, first⟩ s).controller.UuidsDistinct) :
    Complete engine request outcome (Attempted.final engine ⟨request, first⟩ s) := by
  have hensures : Program.Ensures (distinct Turn.Truthful) Program.anyStep
      (fun result s' => ∀ outcome, result = .ok outcome → Complete engine request outcome s')
      (request.provision engine).run s := by
    unfold Request.provision
    rw [ExceptT.run_mk, Program.ensures_bind]
    refine (ensures_steps_complete engine request s).imp fun result s' hcomplete => ?_
    rw [Program.ensures_bind]
    exact ensures_distinct Program.anyStep (ensures_count
      ⟨trivial, fun outcome hok => (hcomplete outcome hok).of_sameContents (.tick s')⟩)
  exact hensures.run_along (distinct_of_moves hfirst hdistinct) outcome hok

/-! ### A run from there -/

/-- An interface that is there is not created again. -/
theorem ensures_createInterface_again {interface : Interface}
    (h : MemoryController.Established interface s.controller) :
    Program.Ensures (conduct Turn.Faultless) Program.anyStep
      (fun result s' => result = .ok () ∧ SameContents s s') (createInterface interface).run s := by
  obtain ⟨hanswer, hafter⟩ := h.createInterface
  have hsame : SameContents s (s.perform (.controller (.createInterface interface))).2.tick := by
    have hperform : (s.perform (.controller (.createInterface interface))).2 =
        { s with controller :=
          { s.controller with tally := s.controller.tally.add (.createInterface interface) } } :=
      congrArg (fun controller => { s with controller }) hafter
    rw [hperform]
    exact {
      setup := ⟨rfl, rfl, rfl, rfl, rfl, rfl⟩
      machines := rfl
      assigned := rfl
      interfaces := rfl
      accounts := rfl
      records := rfl
      orders := rfl }
  unfold createInterface
  rw [ExceptT.run_mk, Program.ensures_bind]
  refine ensures_call fun turn hturn => ⟨trivial, ?_⟩
  have hanswer' : (s.perform (.controller (.createInterface interface))).1 =
      .error (.alreadyExists "NetworkInterface" interface.name) := hanswer
  rw [attend_of_faultless hturn, hanswer']
  exact ⟨rfl, hsame⟩

theorem ensures_createInterfaces_again {interfaces : List Interface}
    (h : ∀ interface ∈ interfaces, MemoryController.Established interface s.controller) :
    Program.Ensures (conduct Turn.Faultless) Program.anyStep
      (fun result s' => result = .ok () ∧ SameContents s s') (createInterfaces interfaces).run s := by
  induction interfaces generalizing s with
  | nil => exact ⟨rfl, .refl s⟩
  | cons interface rest ih =>
    obtain ⟨hfirst, hrest⟩ := List.forall_mem_cons.1 h
    unfold createInterfaces
    refine Program.Ensures.attempt _ (ensures_createInterface_again hfirst) ?_ ?_
    · rintro _ s₁ ⟨-, hsame⟩
      refine (ih fun other hmem => hsame.established (hrest other hmem)).imp ?_
      rintro result s₂ ⟨hok, hsame'⟩
      exact ⟨hok, hsame.trans hsame'⟩
    · rintro failure s₁ ⟨⟨⟩, -⟩

theorem ensures_allocate_again {request : EndpointRequest} {nodes : List Node}
    (hplan : request.plan engine nodes (.ofPeerGroups s.controller.peerGroups) = .ok interfaces)
    (h : ∀ interface ∈ interfaces, MemoryController.Established interface s.controller) :
    Program.Ensures (conduct Turn.Faultless) Program.anyStep
      (fun result s' => result = .ok interfaces ∧ SameContents s s')
      (allocate engine request nodes).run s := by
  have hcount : (s.controller.perform .peerGroups).1 = .ok s.controller.peerGroups := rfl
  unfold allocate probeAddressing
  refine Program.Ensures.attempt (fun result s' =>
    result = .ok (.ofPeerGroups s.controller.peerGroups) ∧ SameContents s s') ?_ ?_ ?_
  · refine Program.Ensures.attempt _ (ensures_sameContents (ensures_read ⟨rfl, rfl⟩ hcount)) ?_ ?_
    · rintro count s₁ ⟨⟨-, hvalue, -⟩, hsame⟩
      rw [hvalue count rfl]
      exact ⟨rfl, hsame⟩
    · rintro failure s₁ ⟨⟨-, -, hanswered⟩, -⟩
      cases hanswered fun _ => id
  · rintro mode s₁ ⟨hmode, hsame⟩
    obtain rfl := Except.ok.inj hmode
    refine Program.Ensures.check ?_ ?_
    · intro planned hplanned
      obtain rfl : interfaces = planned := Except.ok.inj (hplan.symm.trans hplanned)
      refine Program.Ensures.attempt _ (ensures_createInterfaces_again
        fun interface hmem => hsame.established (h interface hmem)) ?_ ?_
      · rintro _ s₂ ⟨-, hsame'⟩
        exact ⟨rfl, hsame.trans hsame'⟩
      · rintro failure s₂ ⟨⟨⟩, -⟩
    · intro failure hfailure
      cases hplan.symm.trans hfailure
  · rintro failure s₁ ⟨⟨⟩, -⟩

/-- With a password in the secret a reconciliation returns it and does nothing else. -/
theorem ensures_reconcile_again {record : SecretRecord}
    (hstored : storedSecret engine project s = some record)
    (hpassword : record.credentials.hasPassword = true) :
    Program.Ensures (conduct Turn.Faultless) Program.anyStep
      (fun result s' => result = .ok (.reconciled record.credentials) ∧ SameContents s s')
      (reconcile engine project svm).run s := by
  unfold reconcile
  refine Program.Ensures.attempt (fun result s' => result = .ok (some record) ∧ SameContents s s') ?_ ?_ ?_
  · refine ensures_call fun turn hturn => ⟨trivial, ?_, ?_⟩
    · rw [attend_of_faultless hturn]
      exact congrArg Except.ok hstored
    · have hreads : Reads (.call (.secrets (.get engine.secretNamespace (engine.secretName project)))) :=
        ⟨rfl, rfl⟩
      exact Reads.sameContents hreads turn s
  · rintro existing s₁ ⟨hexisting, hsame⟩
    obtain rfl := Except.ok.inj hexisting
    simp only [Option.filter_some, hpassword, if_true]
    exact ⟨rfl, hsame⟩
  · rintro failure s₁ ⟨⟨⟩, -⟩

/-- What a run returns that finds everything done. -/
def Outcome.again (outcome : Outcome) : Outcome where
  svm := outcome.svm
  created := false
  interfaces := outcome.interfaces
  credentials := .reconciled outcome.credentials.credentials

theorem ensures_steps_again (h : Complete engine request outcome s) :
    Program.Ensures (conduct Turn.Faultless) Program.anyStep
      (fun result s' => result = .ok outcome.again ∧ SameContents s s') (request.steps engine).run s := by
  obtain ⟨uuid, huuid, hplan⟩ := h.equipped.planned
  obtain ⟨record, hstored, hcredentials, hpassword⟩ := h.secret
  refine ensures_steps
    (fun nodes s' => nodes = distinctNodes s.controller.nodes ∧ SameContents s s')
    (fun nodes svm created s' => (nodes = distinctNodes s.controller.nodes ∧ svm = outcome.svm ∧
      created = false) ∧ SameContents s s')
    (fun svm created interfaces s' => (svm = outcome.svm ∧ created = false ∧
      interfaces = outcome.interfaces) ∧ SameContents s s') ?_ ?_ ?_ ?_ ?_ ?_
  · intro failure hinvalid
    cases h.valid.symm.trans hinvalid
  · intro _
    refine (ensures_sameContents (ensures_selectNodes s)).imp fun result s₁ hpost => ?_
    obtain ⟨hselected, hsame⟩ := hpost
    obtain ⟨nodes, rfl⟩ := hselected.settled (fun _ => id) h.equipped.nodes
    exact Leads.of_ok ⟨(hselected.nodes nodes rfl).1, hsame⟩
  · rintro nodes s₁ ⟨hnodes, hsame⟩
    have hfound : s₁.controller.svmByName request.projectId = some outcome.svm := by
      rw [MemoryController.svmByName, hsame.machines]
      exact h.equipped.machine
    refine (ensures_sameContents (ensures_ensureSvm_found engine hfound)).imp fun result s₂ hpost => ?_
    obtain ⟨⟨-, -, hanswered⟩, hsame'⟩ := hpost
    rw [hanswered fun _ => id]
    exact Leads.of_ok ⟨⟨hnodes, rfl, rfl⟩, hsame.trans hsame'⟩
  · rintro nodes svm created s₂ ⟨⟨-, rfl, -⟩, -⟩ hnone
    cases hnone.symm.trans huuid
  · rintro nodes svm created s₂ ⟨⟨rfl, rfl, rfl⟩, hsame⟩ uuid' huuid'
    obtain rfl : uuid = uuid' := Option.some.inj (huuid.symm.trans huuid')
    rw [← hsame.setup.peerGroups] at hplan
    refine (ensures_allocate_again hplan fun interface hmem =>
      hsame.established (h.equipped.connected interface hmem)).imp fun result s₃ hpost => ?_
    obtain ⟨rfl, hsame'⟩ := hpost
    exact Leads.of_ok ⟨⟨rfl, rfl, rfl⟩, hsame.trans hsame'⟩
  · rintro svm created interfaces s₃ ⟨⟨rfl, rfl, rfl⟩, hsame⟩
    have hstored' : storedSecret engine request.projectId s₃ = some record := by
      rw [storedSecret, MemorySecrets.stored, hsame.records]
      exact hstored
    refine (ensures_reconcile_again hstored' hpassword).imp fun result s₄ hpost => ?_
    obtain ⟨rfl, hsame'⟩ := hpost
    rw [hcredentials]
    exact Leads.of_ok ⟨rfl, hsame.trans hsame'⟩

/-- A run from a state in which everything is done returns what is there, and changes nothing. -/
theorem Complete.run (h : Complete engine request outcome s) {course : Course}
    (hcourse : ∀ n, (course n).Faultless) :
    Attempted.result engine ⟨request, course⟩ s = .ok outcome.again ∧
      SameContents s (Attempted.final engine ⟨request, course⟩ s) := by
  have hensures : Program.Ensures (conduct Turn.Faultless) Program.anyStep
      (fun result s' => result = .ok outcome.again ∧ SameContents s s')
      (request.provision engine).run s := by
    unfold Request.provision
    rw [ExceptT.run_mk, Program.ensures_bind]
    refine (ensures_steps_again h).imp fun result s₁ hpost => ?_
    rw [Program.ensures_bind]
    exact ensures_count ⟨trivial, hpost.1, hpost.2.trans (.tick s₁)⟩
  exact run_of_ensures hensures course hcourse

/-- Any number of runs in which nothing goes wrong change nothing where everything is done. -/
theorem Complete.after (h : Complete engine request outcome s) {again : List Course}
    (hagain : ∀ course ∈ again, ∀ n, (course n).Faultless) :
    SameContents s (Attempted.after engine (again.map (Attempted.mk request)) s) := by
  induction again generalizing s with
  | nil => exact .refl s
  | cons course rest ih =>
    obtain ⟨hcourse, hrest⟩ := List.forall_mem_cons.1 hagain
    have hsame := (h.run hcourse).2
    exact hsame.trans (ih (h.of_sameContents hsame) hrest)

/-- **A run that is repeated changes nothing.**  After a run that succeeded, every further run for the request in
    which nothing goes wrong returns the same machine, interfaces and password, and tells that it has created
    nothing; and however many there are, the contents stay as the first has left them. -/
theorem repeats_of_result {first : Course} (hfirst : ∀ n, (first n).Truthful)
    (hok : Attempted.result engine ⟨request, first⟩ s = .ok outcome)
    (hdistinct : (Attempted.final engine ⟨request, first⟩ s).controller.UuidsDistinct)
    {again : List Course} (hagain : ∀ course ∈ again, ∀ n, (course n).Faultless) {last : Course}
    (hlast : ∀ n, (last n).Faultless) :
    let done := Attempted.final engine ⟨request, first⟩ s
    let earlier := Attempted.after engine (again.map (Attempted.mk request)) done
    Attempted.result engine ⟨request, last⟩ earlier = .ok outcome.again ∧
      SameContents done (Attempted.final engine ⟨request, last⟩ earlier) := by
  intro done earlier
  have hdone := complete_of_result hfirst hok hdistinct
  have hearlier : SameContents done earlier := hdone.after hagain
  obtain ⟨hresult, hlater⟩ := (hdone.of_sameContents hearlier).run hlast
  exact ⟨hresult, hearlier.trans hlater⟩

/-- Runs in which nothing goes wrong, with passwords of their own. -/
def calmCourse (label : String) : Course := fun n => ⟨none, false, label ++ n.repr⟩

theorem repeats_of_calmCourses :
    ∃ outcome, (∀ n, (calmCourse "first" n).Truthful) ∧
      Attempted.result default ⟨strandedRun.request, calmCourse "first"⟩ neighbours = .ok outcome ∧
      outcome.created = true ∧
      (Attempted.final default ⟨strandedRun.request, calmCourse "first"⟩
        neighbours).controller.UuidsDistinct ∧
      (∀ course ∈ [calmCourse "second", calmCourse "third"], ∀ n, (course n).Faultless) ∧
      (∀ n, (calmCourse "fourth" n).Faultless) ∧
      let done := Attempted.final default ⟨strandedRun.request, calmCourse "first"⟩ neighbours
      let earlier := Attempted.after default
        ([calmCourse "second", calmCourse "third"].map (Attempted.mk strandedRun.request)) done
      Attempted.result default ⟨strandedRun.request, calmCourse "fourth"⟩ earlier = .ok outcome.again ∧
        SameContents done (Attempted.final default ⟨strandedRun.request, calmCourse "fourth"⟩ earlier) := by
  have hfirst (n : Nat) : (calmCourse "first" n).Truthful := {
    mishap := by rintro failure (⟨⟨⟩⟩ | ⟨⟨⟩⟩)
    password := fun h => by simpa [calmCourse] using congrArg String.length h }
  have hcalm (label : String) (n : Nat) : (calmCourse label n).Faultless := rfl
  have hagain : ∀ course ∈ [calmCourse "second", calmCourse "third"], ∀ n, (course n).Faultless := by
    simp [hcalm]
  have hdistinct : (Attempted.final default ⟨strandedRun.request, calmCourse "first"⟩
      neighbours).controller.UuidsDistinct := by decide +kernel
  have hcreated : (Attempted.result default ⟨strandedRun.request, calmCourse "first"⟩
      neighbours).toOption.map (·.created) = some true := by decide +kernel
  cases hok : Attempted.result default ⟨strandedRun.request, calmCourse "first"⟩ neighbours with
  | error failure =>
    rw [hok] at hcreated
    cases hcreated
  | ok outcome =>
    rw [hok] at hcreated
    exact ⟨outcome, hfirst, rfl, Option.some.inj hcreated, hdistinct, hagain, hcalm "fourth",
      repeats_of_result hfirst hok hdistinct hagain (hcalm "fourth")⟩

end TenantStorage.Provision
