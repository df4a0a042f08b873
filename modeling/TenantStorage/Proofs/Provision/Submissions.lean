import TenantStorage.Proofs.Provision.InterfaceNames

namespace TenantStorage

open Systems Engine

/-!
# What an allocation submits

The planned interfaces are submitted to the controller one after another.  The reply that an interface exists
already is as good as a success; any other failure is the last reply, and the allocation ends with it.  What was
created until then stays.

* `Submission`, `submissions` — the interfaces that a run submits, each with its state and its reply.
* `Passes` — the replies after which the next interface is submitted.
* `Submitted` — how far a list of interfaces gets, and what the replies lead to.
* `interfaces_run` — what a controller in memory has after any run of the engine in which nothing goes wrong.
* `allocate_submits` — both for an allocation.
-/

namespace Provision

variable {α σ : Type}

/-! ### Submissions -/

/-- An interface that was submitted, the state in which this was done, and the reply. -/
structure Submission (σ : Type) where
  interface : Interface
  before : σ
  reply : Except Failure Unit

/-- The submission that a step is, if it is one. -/
def submission? : Program.Move actions σ → Option (Submission σ)
  | ⟨s, .call (.controller (.createInterface interface)), reply, _⟩ => some ⟨interface, s, reply⟩
  | ⟨s, .watch (.controller (.createInterface interface)), some reply, _⟩ => some ⟨interface, s, reply⟩
  | _ => none

/-- The submissions among steps, in their order. -/
def submissions (moves : List (Program.Move actions σ)) : List (Submission σ) := moves.filterMap submission?

/-- A reply after which the next interface is submitted: a success, or a failure whose root is that something
    exists already. -/
def Passes (reply : Except Failure Unit) : Prop :=
  ∀ failure, reply = .error failure → ∃ kind name, failure.root = .alreadyExists kind name

theorem isAlreadyExists_iff {failure : Failure} :
    failure.isAlreadyExists = true ↔ ∃ kind name, failure.root = .alreadyExists kind name := by
  rw [Failure.isAlreadyExists]
  split
  · rename_i kind name hroot
    exact ⟨fun _ => ⟨kind, name, hroot⟩, fun _ => rfl⟩
  · rename_i hother
    exact ⟨by rintro ⟨⟩, fun ⟨kind, name, hroot⟩ => absurd hroot (hother kind name)⟩

theorem passes_ok (value : Unit) : Passes (.ok value) := by
  rintro failure ⟨⟩

theorem passes_error_iff {failure : Failure} :
    Passes (.error failure) ↔ failure.isAlreadyExists = true := by
  rw [isAlreadyExists_iff]
  constructor
  · exact fun h => h failure rfl
  · rintro h _ ⟨⟩
    exact h

instance : DecidablePred Passes
  | .ok value => isTrue (passes_ok value)
  | .error _ => decidable_of_iff _ passes_error_iff.symm

/-! ### From what is said -/

/-- A submission as it is said. -/
def Submission.said (submission : Submission σ) : Said :=
  .called (.controller (.createInterface submission.interface)) submission.reply

theorem Submission.said_eq_iff {sub : Submission σ} {interface : Interface} {reply : Except Failure Unit} :
    sub.said = .called (.controller (.createInterface interface)) reply ↔
      sub.interface = interface ∧ sub.reply = reply := by
  constructor
  · intro h
    injection h with hcall hreply
    injection hcall with hcall
    injection hcall with hinterface
    exact ⟨hinterface, hreply⟩
  · rintro ⟨rfl, rfl⟩
    rfl

/-- Whether an interface is submitted. -/
def Said.submits : Said → Bool
  | .called (.controller (.createInterface _)) _ => true
  | _ => false

theorem said_submission? (move : Program.Move actions σ) :
    (submission? move).map Submission.said = (said? ⟨move.op, move.answer⟩).filter Said.submits := by
  obtain ⟨s, action, answer, s'⟩ := move
  cases action with
  | call c =>
    cases c with
    | secrets _ => rfl
    | controller c => cases c <;> rfl
  | watch c =>
    cases answer with
    | none => cases c with
      | secrets _ => rfl
      | controller c => cases c <;> rfl
    | some reply => cases c with
      | secrets _ => rfl
      | controller c => cases c <;> rfl
  | pause _ => cases answer <;> rfl
  | cancelled => cases answer <;> rfl
  | password | count _ => rfl

/-- What is said to submit interfaces, in a run under any handler. -/
theorem said_submissions (handle : (action : Action) → σ → action.Answer × σ) (p : Engine α) (s : σ) :
    (submissions (Program.moves (S := actions) handle p s)).map Submission.said =
      (conversation handle p s).filter Said.submits := by
  unfold submissions conversation Program.talk
  rw [List.filterMap_map, List.map_filterMap, List.filter_filterMap]
  exact List.filterMap_congr fun move _ => said_submission? move

/-- Everything that is said to create interfaces submits one. -/
theorem Creation.submits {interfaces : List Interface} {said : List Said} {result : Except Failure Unit}
    (h : Creation interfaces said result) : said.filter Said.submits = said := by
  induction h with
  | done => rfl
  | created reply hreply hrest ih => rw [List.filter_cons_of_pos rfl, ih]
  | refused failure hkind => rfl

/-! ### How far interfaces get -/

/-- How far interfaces get that are submitted in order. -/
structure Submitted (value : α) (interfaces : List Interface) (subs : List (Submission σ))
    (result : Except Failure α) : Prop where
  ok_iff : result = .ok value ↔ ∀ sub ∈ subs, Passes sub.reply
  /-- If every reply passes, all of them are submitted. -/
  all : (∀ sub ∈ subs, Passes sub.reply) → subs.map (·.interface) = interfaces
  /-- Any other failure is the last reply, and is passed on with the name of its interface. -/
  refused : ∀ i sub failure, subs[i]? = some sub → sub.reply = .error failure → ¬Passes sub.reply →
    interfaces[i]? = some sub.interface ∧ subs.map (·.interface) = interfaces.take (i + 1) ∧
      result = .error (.interfaceCreation sub.interface.name failure)

namespace Submitted

variable {value : α} {interfaces : List Interface} {subs : List (Submission σ)} {sub : Submission σ}
  {result : Except Failure α}

theorem nil : Submitted () [] ([] : List (Submission σ)) (.ok ()) where
  ok_iff := by simp
  all := fun _ => rfl
  refused := by rintro _ _ _ ⟨⟩

/-- After a reply that passes the rest is submitted. -/
theorem cons (hpass : Passes sub.reply) (h : Submitted value interfaces subs result) :
    Submitted value (sub.interface :: interfaces) (sub :: subs) result where
  ok_iff := by rw [h.ok_iff, List.forall_mem_cons, and_iff_right hpass]
  all hall := by rw [List.map_cons, h.all (List.forall_mem_cons.1 hall).2]
  refused i other failure hi hreply hother := by
    cases i with
    | zero =>
      obtain rfl : sub = other := by simpa using hi
      exact absurd hpass hother
    | succ i =>
      obtain ⟨hat, htake, hresult⟩ := h.refused i other failure (by simpa using hi) hreply hother
      exact ⟨by simpa using hat, by rw [List.map_cons, htake, List.take_succ_cons], hresult⟩

/-- After any other failure nothing is submitted. -/
theorem stop {failure : Failure} (hreply : sub.reply = .error failure)
    (hkind : failure.isAlreadyExists = false) :
    Submitted value (sub.interface :: interfaces) [sub]
      (.error (.interfaceCreation sub.interface.name failure)) := by
  have hrefused : ¬Passes sub.reply := by
    rw [hreply, passes_error_iff, hkind]
    exact Bool.false_ne_true
  have hnot : ¬∀ other ∈ [sub], Passes other.reply := fun hall => hrefused (hall sub List.mem_cons_self)
  refine ⟨⟨by rintro ⟨⟩, fun hall => absurd hall hnot⟩, fun hall => absurd hall hnot, ?_⟩
  intro i other failure' hi hreply' _
  -- there is one submission, so the failure is its reply
  obtain ⟨hlt, rfl⟩ := List.getElem?_eq_some_iff.1 hi
  obtain rfl : i = 0 := by simpa using hlt
  obtain rfl : failure = failure' := Except.error.inj (hreply.symm.trans hreply')
  exact ⟨rfl, rfl, rfl⟩

/-- What a success returns may be changed. -/
theorem map {result : Except Failure Unit} (h : Submitted () interfaces subs result) (value : α) :
    Submitted value interfaces subs (result.map fun _ => value) where
  ok_iff := by
    rw [← h.ok_iff]
    cases result <;> simp [Except.map]
  all := h.all
  refused i sub failure hi hreply hsub := by
    obtain ⟨hat, htake, rfl⟩ := h.refused i sub failure hi hreply hsub
    exact ⟨hat, htake, rfl⟩

end Submitted

/-- What is said to create interfaces tells how far they get. -/
theorem Creation.submitted {interfaces : List Interface} {said : List Said} {result : Except Failure Unit}
    (h : Creation interfaces said result) {subs : List (Submission σ)}
    (hsaid : subs.map Submission.said = said) : Submitted () interfaces subs result := by
  induction h generalizing subs with
  | done =>
    obtain rfl := List.map_eq_nil_iff.1 hsaid
    exact .nil
  | created reply hreply hrest ih =>
    obtain ⟨sub, rest, rfl, hsub, hrest'⟩ := List.map_eq_cons_iff.1 hsaid
    obtain ⟨rfl, rfl⟩ := Submission.said_eq_iff.1 hsub
    refine .cons (fun failure hfailure => ?_) (ih hrest')
    exact isAlreadyExists_iff.1 (hreply failure hfailure)
  | refused failure hkind =>
    obtain ⟨sub, rest, rfl, hsub, hrest⟩ := List.map_eq_cons_iff.1 hsaid
    obtain rfl := List.map_eq_nil_iff.1 hrest
    obtain ⟨rfl, hreply⟩ := Submission.said_eq_iff.1 hsub
    exact .stop hreply hkind

/-- An allocation first asks for the peer groups, then plans, and then submits what is planned. -/
theorem submitted_allocate (engine : Settings.Engine) (request : EndpointRequest) (nodes : List Node)
    (handle : (action : Action) → σ → action.Answer × σ) (s : σ) :
    let result := (Program.run (S := actions) handle (allocate engine request nodes).run s).1
    let subs := submissions (Program.moves (S := actions) handle (allocate engine request nodes).run s)
    match (handle (.call (.controller .peerGroups)) s).1 with
    | .error failure => result = .error failure ∧ subs = []
    | .ok groups =>
      match request.plan engine nodes (.ofPeerGroups groups) with
      | .error failure => result = .error failure ∧ subs = []
      | .ok interfaces => Submitted interfaces interfaces subs result := by
  intro result subs
  have hsays := says_run handle (allocate engine request nodes).run s
  have hsubs : subs.map Submission.said = _ := said_submissions handle (allocate engine request nodes).run s
  have hfirst : ∃ rest, conversation handle (allocate engine request nodes).run s =
      .called (.controller .peerGroups) (handle (.call (.controller .peerGroups)) s).1 :: rest := ⟨_, rfl⟩
  generalize conversation handle (allocate engine request nodes).run s = said at hsays hsubs hfirst
  change Says _ said result at hsays
  obtain ⟨rest, rfl⟩ := hfirst
  have hrest : subs.map Submission.said = rest.filter Said.submits := hsubs
  generalize (handle (.call (.controller .peerGroups)) s).1 = reply at hsays
  simp only [allocate, probeAddressing, bind_assoc, pure_bind] at hsays
  rcases says_call_then_iff.1 hsays with ⟨failure, hsaid, hresult⟩ | ⟨groups, rest', hsaid, hplan⟩
  · injection hsaid with hcalled hnil
    injection hcalled with _ hreply
    subst hreply hnil
    exact ⟨hresult, List.map_eq_nil_iff.1 hrest⟩
  · injection hsaid with hcalled hsame
    injection hcalled with _ hreply
    subst hreply hsame
    rcases says_check_iff.1 hplan with ⟨failure, hfailed, rfl, hresult⟩ | ⟨interfaces, hplanned, hcreate⟩
    · simp only [hfailed]
      exact ⟨hresult, List.map_eq_nil_iff.1 hrest⟩
    · simp only [hplanned]
      obtain ⟨inner, hinner, hresult⟩ := says_map_iff.1 hcreate
      have hcreation := creation_of_said hinner
      rw [hresult]
      exact (hcreation.submitted (hrest.trans hcreation.submits)).map interfaces

/-! ### On a controller in memory -/

/-- The reply passes, and the interface was not there when it was submitted. -/
def Submission.Adds (sub : Submission Systems) : Prop :=
  Passes sub.reply ∧ sub.interface.place ∉ sub.before.controller.interfaces.map (·.place)

instance : DecidablePred Submission.Adds := fun _ => inferInstanceAs (Decidable (_ ∧ _))

/-- The interfaces that submissions add, in their order. -/
def newcomers (subs : List (Submission Systems)) : List Interface :=
  (subs.filter fun sub => sub.Adds).map (·.interface)

theorem newcomers_append (first second : List (Submission Systems)) :
    newcomers (first ++ second) = newcomers first ++ newcomers second := by
  simp [newcomers]

theorem newcomers_singleton (sub : Submission Systems) :
    newcomers [sub] = if sub.Adds then [sub.interface] else [] := by
  unfold newcomers
  by_cases h : sub.Adds <;> simp [h]

theorem controllerCall?_of_submission? {move : Program.Move actions σ} {sub : Submission σ}
    (h : submission? move = some sub) :
    Action.controllerCall? move.op = some (.createInterface sub.interface) := by
  unfold submission? at h
  split at h
  all_goals cases h
  all_goals rfl

theorem submissions_cons (move : Program.Move actions σ) (moves : List (Program.Move actions σ)) :
    submissions (move :: moves) = (submission? move).toList ++ submissions moves := by
  unfold submissions
  rw [List.filterMap_cons]
  cases submission? move <;> rfl

/-- A controller adds an interface behind the others if the reply passes and the interface was not there. -/
theorem interfaces_submitted (s : Systems) (interface : Interface) :
    (s.controller.perform (.createInterface interface)).2.interfaces = s.controller.interfaces ++
      newcomers [⟨interface, s, (s.controller.perform (.createInterface interface)).1⟩] := by
  cases hfailing : s.controller.failingInterfaces.contains interface.name with
  | true =>
    obtain ⟨failure, hreply, hkind⟩ := MemoryController.createInterface_of_failing hfailing
    have hrefused : ¬Passes (.error failure) := by
      rw [passes_error_iff, hkind]
      exact Bool.false_ne_true
    rw [newcomers_singleton, hreply, if_neg fun h => hrefused h.1, List.append_nil]
    simp only [MemoryController.perform, MemoryController.answer, hfailing, if_true]
  | false =>
    have hpasses : Passes (s.controller.perform (.createInterface interface)).1 := by
      rcases (MemoryController.createInterface_cases s.controller interface hfailing).1 with
        hok | ⟨failure, hreply, hkind⟩
      · rw [hok]
        exact passes_ok ()
      · rw [hreply]
        exact passes_error_iff.2 hkind
    rw [MemoryController.interfaces_createInterface hfailing, addInterface, newcomers_singleton]
    by_cases hthere : interface.place ∈ s.controller.interfaces.map (·.place)
    · rw [if_pos hthere, if_neg fun h => h.2 hthere, List.append_nil]
    · rw [if_neg hthere, if_pos ⟨hpasses, hthere⟩]

/-- One action adds what it submits, if that is new. -/
theorem interfaces_step {turn : Turn} (hturn : turn.Faultless) (action : Action) (s : Systems) :
    (s.answer turn action).2.controller.interfaces = s.controller.interfaces ++
      newcomers (submission? ⟨s, action, (s.answer turn action).1, (s.answer turn action).2⟩).toList := by
  by_cases hcreates : ∃ interface, action.controllerCall? = some (.createInterface interface)
  · obtain ⟨interface, hcall⟩ := hcreates
    have hattend := attend_of_faultless hturn (.controller (.createInterface interface)) s
    have hadded := interfaces_submitted s interface
    cases action with
    | call c =>
      obtain rfl : c = .controller (.createInterface interface) :=
        Option.some.inj (Action.call?_of_controllerCall? hcall)
      rw [Systems.answer, hattend]
      exact hadded
    | watch c =>
      obtain rfl : c = .controller (.createInterface interface) :=
        Option.some.inj (Action.call?_of_controllerCall? hcall)
      -- a watched call that is given up does not reach the controller
      cases hcancelled : turn.cancelled with
      | true =>
        simp only [Systems.answer, hcancelled, if_true]
        exact (List.append_nil _).symm
      | false =>
        simp only [Systems.answer, hcancelled, Bool.false_eq_true, if_false, hattend]
        exact hadded
    | pause _ | cancelled | password | count _ => cases hcall
  · have hnone : submission? ⟨s, action, (s.answer turn action).1, (s.answer turn action).2⟩ = none := by
      by_contra hsome
      obtain ⟨sub, hsub⟩ := Option.ne_none_iff_exists'.1 hsome
      exact hcreates ⟨sub.interface, controllerCall?_of_submission? hsub⟩
    have hpart : action.part? ≠ some .interfaces := by
      intro hpart
      obtain ⟨call, hcall, hwrites⟩ := Option.bind_eq_some_iff.1 hpart
      cases call with
      | createInterface interface => exact hcreates ⟨interface, hcall⟩
      | svmByName _ | svm _ | createSvm _ | nodes | aggregates | peerGroups | createAccount _ | account _ _
        | setPassword _ _ _ => cases hwrites
    rw [hnone, interfaces_answer turn action hpart]
    exact (List.append_nil _).symm

/-- **What a controller in memory has after a run.**  Whatever the engine does while nothing goes wrong, the
    interfaces are those that were there, followed by those that were new when they were submitted. -/
theorem interfaces_run {course : Course} (hcourse : ∀ turn, (course turn).Faultless) (p : Engine α)
    (s : Systems) :
    (Program.run (S := actions) (handle course) p s).2.controller.interfaces = s.controller.interfaces ++
      newcomers (submissions (Program.moves (S := actions) (handle course) p s)) := by
  -- by induction on the program: each step adds its own, and the rest starts from there
  induction p generalizing s with
  | done value => exact (List.append_nil _).symm
  | ask action resume ih =>
    have hstep := interfaces_step (hcourse s.turn) action s
    have hrest := ih (s.answer (course s.turn) action).1 (s.answer (course s.turn) action).2
    change (Program.run (S := actions) (handle course) (resume (s.answer (course s.turn) action).1)
      (s.answer (course s.turn) action).2).2.controller.interfaces = _
    rw [hrest, hstep, List.append_assoc, ← newcomers_append, ← submissions_cons]
    rfl

/-! ### An allocation -/

/-- **An allocation gets as far as the first refusal, and what it created until then stays.**  Whatever the
    surroundings reply, it succeeds with the whole plan if and only if every reply is a success or has for its
    root that something exists already; otherwise the first other failure is the last reply, the interfaces
    up to that one were submitted in the order of the plan, and the result names it with that very failure.
    On a controller in memory, in any state, the interfaces that were there stay as they are, and behind them
    come those that were submitted before a refusal and were new at that time. -/
theorem allocate_submits (engine : Settings.Engine) (request : EndpointRequest) (nodes : List Node)
    {course : Course} (hcourse : ∀ turn, (course turn).Faultless) (systems : Systems) :
    (∀ {σ : Type} (handle : (action : Action) → σ → action.Answer × σ) (s : σ),
      let result := (Program.run (S := actions) handle (allocate engine request nodes).run s).1
      let subs := submissions (Program.moves (S := actions) handle (allocate engine request nodes).run s)
      match (handle (.call (.controller .peerGroups)) s).1 with
      | .error failure => result = .error failure ∧ subs = []
      | .ok groups =>
        match request.plan engine nodes (.ofPeerGroups groups) with
        | .error failure => result = .error failure ∧ subs = []
        | .ok interfaces => Submitted interfaces interfaces subs result) ∧
    (systems.run course (allocate engine request nodes)).2.controller.interfaces =
      systems.controller.interfaces ++
        newcomers (submissions (systems.moves course (allocate engine request nodes))) := by
  constructor
  · intro σ handle s
    exact submitted_allocate engine request nodes handle s
  · exact interfaces_run hcourse (allocate engine request nodes).run systems

/-- Three data addresses for a machine. -/
def threeEndpoints : EndpointRequest :=
  ⟨"svm-uuid-1", [.v4 ⟨10, 0, 0, 1⟩, .v4 ⟨10, 0, 0, 2⟩, .v4 ⟨10, 0, 0, 3⟩], .v4 ⟨10, 0, 0, 9⟩⟩

/-- The first data interface as another run left it. -/
def earlierInterface : Interface :=
  endpoint "data-lif-0" (.v4 ⟨10, 0, 0, 7⟩) .data "svm-uuid-1" ⟨"node-2", "n2"⟩ .subnet

/-- Systems in which the first data interface exists and the third cannot be created. -/
def halfway : Systems :=
  ⟨{ MemoryController.initial.failInterface "data-lif-2" with interfaces := [earlierInterface] }, .empty, 0⟩

theorem allocate_submits_until_third :
    (∀ turn, (faultlessCourse turn).Faultless) ∧
      (halfway.run faultlessCourse (allocate default threeEndpoints someNodes)).1 =
        .error (.interfaceCreation "data-lif-2"
          (.controller "create interface" 500 "injected failure for data-lif-2")) ∧
      (halfway.run faultlessCourse (allocate default threeEndpoints someNodes)).2.controller.interfaces =
        [earlierInterface, endpoint "data-lif-1" (.v4 ⟨10, 0, 0, 2⟩) .data "svm-uuid-1" ⟨"node-2", "n2"⟩
          .subnet] := by
  have hcalm (turn : Nat) : (faultlessCourse turn).Faultless := rfl
  obtain ⟨hsubmitted, hinterfaces⟩ := allocate_submits default threeEndpoints someNodes hcalm halfway
  have hended := (hsubmitted (handle faultlessCourse) halfway).refused 2 _ _ rfl rfl (by decide)
  exact ⟨hcalm, hended.2.2, hinterfaces.trans rfl⟩

end Provision

end TenantStorage
