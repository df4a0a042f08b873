import TenantStorage.Proofs.Credentials.HandOff
import TenantStorage.Proofs.Readiness
import TenantStorage.Provision.Run

namespace TenantStorage.Provision

open Engine

/-!
# The calls of a run, whatever the two systems reply

A run is followed call by call, with every reply, every failure and every moment of the cancellation left
open.  Each part of a run has its own sentences; `Dialogue` puts them together.

* `Selection` — the nodes.
* `Observation`, `Wait` — one look at the machine, and looks until it is ready.
* `Awaiting` — a wait from its beginning, with what it comes to.
* `MachineTalk` — the machine that is there, or the order of one and the wait for it.
* `Creation` — interfaces in their order.
* `Connection` — the peer groups, and the interfaces that are planned for them.
* `Dialogue` — everything; `dialogue_of_said` says that a run says nothing else.
* `Dialogue.unbroken` — nothing is said after a failure that matters, or after the cancellation.
* `dialogue_provision` — both, for a run under any handler.
-/

variable {engine : Settings.Engine} {project : String} {said : List Said}

/-! ### The nodes -/

theorem mem_firstNodes {seen : List String} {nodes : List Node} {node : Node}
    (h : node ∈ firstNodes seen nodes) : node ∈ nodes ∧ node.uuid ∉ seen := by
  induction nodes generalizing seen with
  | nil => cases h
  | cons first rest ih =>
    rw [firstNodes] at h
    split at h
    · exact ⟨List.mem_cons_of_mem _ (ih h).1, (ih h).2⟩
    · rename_i hseen
      rcases List.mem_cons.1 h with rfl | h
      · exact ⟨List.mem_cons_self, by simpa using hseen⟩
      · exact ⟨List.mem_cons_of_mem _ (ih h).1, fun hmem => (ih h).2 (List.mem_cons_of_mem _ hmem)⟩

theorem exists_mem_firstNodes {seen : List String} {nodes : List Node} {node : Node} (h : node ∈ nodes)
    (hseen : node.uuid ∉ seen) : ∃ first ∈ firstNodes seen nodes, first.uuid = node.uuid := by
  induction nodes generalizing seen with
  | nil => cases h
  | cons head rest ih =>
    rw [firstNodes]
    rcases List.mem_cons.1 h with rfl | h
    · simp [hseen]
    · split
      · exact ih h hseen
      · -- the node has the identifier of the head, or one that is not seen with it either
        by_cases hsame : head.uuid = node.uuid
        · exact ⟨head, List.mem_cons_self, hsame⟩
        · have hunseen : node.uuid ∉ head.uuid :: seen := by simpa using ⟨Ne.symm hsame, hseen⟩
          obtain ⟨first, hfirst, huuid⟩ := ih h hunseen
          exact ⟨first, List.mem_cons_of_mem _ hfirst, huuid⟩

/-- The first two nodes that are left have different identifiers. -/
theorem uuid_ne_of_firstNodes {seen : List String} {nodes rest : List Node} {first second : Node}
    (h : firstNodes seen nodes = first :: second :: rest) : first.uuid ≠ second.uuid := by
  induction nodes generalizing seen with
  | nil => cases h
  | cons head tail ih =>
    rw [firstNodes] at h
    split at h
    · exact ih h
    · obtain ⟨rfl, htail⟩ := List.cons.inj h
      have hsecond : second ∈ firstNodes (head.uuid :: seen) tail := by rw [htail]; simp
      intro hsame
      exact (mem_firstNodes hsecond).2 (hsame ▸ List.mem_cons_self)

/-- The nodes are enough when two of them differ in their identifiers. -/
theorem minNodes_le_iff {nodes : List Node} : minNodes ≤ (distinctNodes nodes).length ↔
    ∃ node ∈ nodes, ∃ other ∈ nodes, node.uuid ≠ other.uuid := by
  constructor
  · intro h
    match hdistinct : distinctNodes nodes, h with
    | first :: second :: rest, _ =>
      have hfirst : first ∈ distinctNodes nodes := by simp [hdistinct]
      have hsecond : second ∈ distinctNodes nodes := by simp [hdistinct]
      exact ⟨first, (mem_firstNodes hfirst).1, second, (mem_firstNodes hsecond).1,
        uuid_ne_of_firstNodes hdistinct⟩
  · rintro ⟨node, hnode, other, hother, hne⟩
    obtain ⟨first, hfirst, huuid⟩ := exists_mem_firstNodes hnode (List.not_mem_nil (a := node.uuid))
    obtain ⟨second, hsecond, huuid'⟩ := exists_mem_firstNodes hother (List.not_mem_nil (a := other.uuid))
    rw [distinctNodes, minNodes]
    -- a list with two different members has two elements at least
    match firstNodes [] nodes, hfirst, hsecond with
    | [only], hfirst, hsecond =>
      obtain rfl := List.mem_singleton.1 hfirst
      obtain rfl := List.mem_singleton.1 hsecond
      exact absurd (huuid.symm.trans huuid') hne
    | _ :: _ :: _, _, _ => simp

/-- What is said to select the nodes, of which two have to differ in their identifiers. -/
inductive Selection : List Said → Except Failure (List Node) → Prop where
  | unread (failure : Failure) : Selection [.called (.controller .nodes) (.error failure)] (.error failure)
  | few (nodes : List Node) (h : ¬∃ node ∈ nodes, ∃ other ∈ nodes, node.uuid ≠ other.uuid) :
      Selection [.called (.controller .nodes) (.ok nodes)]
        (.error (.insufficientNodes (distinctNodes nodes).length minNodes))
  | enough (nodes : List Node) (h : ∃ node ∈ nodes, ∃ other ∈ nodes, node.uuid ≠ other.uuid) :
      Selection [.called (.controller .nodes) (.ok nodes)] (.ok (distinctNodes nodes))

theorem selection_of_said {result : Except Failure (List Node)} (h : Says selectNodes.run said result) :
    Selection said result := by
  rcases says_call_then_iff.1 h with ⟨failure, rfl, rfl⟩ | ⟨nodes, rest, rfl, hrest⟩
  · exact .unread failure
  · by_cases hfew : (distinctNodes nodes).length < minNodes
    · simp only [hfew, if_true] at hrest
      obtain ⟨rfl, rfl⟩ := says_throw_iff.1 hrest
      exact .few nodes fun h => absurd (minNodes_le_iff.2 h) (Nat.not_le_of_lt hfew)
    · simp only [hfew, if_false] at hrest
      obtain ⟨rfl, rfl⟩ := says_return_iff.1 hrest
      exact .enough nodes (minNodes_le_iff.1 (Nat.le_of_not_lt hfew))

/-! ### The machine -/

/-- One look at the machine of a project: by its name, and by the identifier that this shows. -/
inductive Observation (project : String) : List Said → Option (Except Failure (Probe Svm)) → Prop where
  | abandoned : Observation project [.abandoned (.controller (.svmByName project))] none
  | unread (failure : Failure) :
      Observation project [.called (.controller (.svmByName project)) (.error failure)]
        (some (.error failure))
  | invisible :
      Observation project [.called (.controller (.svmByName project)) (.ok none)]
        (some (.ok (.pending ("svm " ++ project ++ " not visible yet"))))
  | nameless (found : Svm) (h : found.uuid = none) :
      Observation project [.called (.controller (.svmByName project)) (.ok (some found))]
        (some (.ok (.pending found.condition)))
  | abandonedThen (found : Svm) (uuid : String) (h : found.uuid = some uuid) :
      Observation project
        [.called (.controller (.svmByName project)) (.ok (some found)), .abandoned (.controller (.svm uuid))]
        none
  | unreadThen (found : Svm) (uuid : String) (h : found.uuid = some uuid) (failure : Failure) :
      Observation project
        [.called (.controller (.svmByName project)) (.ok (some found)),
          .called (.controller (.svm uuid)) (.error failure)] (some (.error failure))
  | seen (found : Svm) (uuid : String) (h : found.uuid = some uuid) (svm : Svm) :
      Observation project
        [.called (.controller (.svmByName project)) (.ok (some found)),
          .called (.controller (.svm uuid)) (.ok svm)] (some (.ok (probeOf svm)))

theorem observation_of_said {seen : Option (Except Failure (Probe Svm))}
    (h : Says (lookAtSvm project) said seen) : Observation project said seen := by
  rw [lookAtSvm, says_bind_iff] at h
  obtain ⟨_, rest, byName, rfl, hname, hrest⟩ := h
  obtain rfl := says_watch_iff.1 hname
  match byName with
  | none =>
    obtain ⟨rfl, rfl⟩ := says_pure_iff.1 hrest
    exact .abandoned
  | some (.error failure) =>
    obtain ⟨rfl, rfl⟩ := says_pure_iff.1 hrest
    exact .unread failure
  | some (.ok none) =>
    obtain ⟨rfl, rfl⟩ := says_pure_iff.1 hrest
    exact .invisible
  | some (.ok (some found)) =>
    cases huuid : found.uuid with
    | none =>
      simp only [huuid] at hrest
      obtain ⟨rfl, rfl⟩ := says_pure_iff.1 hrest
      exact .nameless found huuid
    | some uuid =>
      simp only [huuid] at hrest
      obtain ⟨_, _, byUuid, rfl, hcall, hend⟩ := says_bind_iff.1 hrest
      obtain rfl := says_watch_iff.1 hcall
      match byUuid with
      | none =>
        obtain ⟨rfl, rfl⟩ := says_pure_iff.1 hend
        exact .abandonedThen found uuid huuid
      | some (.error failure) =>
        obtain ⟨rfl, rfl⟩ := says_pure_iff.1 hend
        exact .unreadThen found uuid huuid failure
      | some (.ok svm) =>
        obtain ⟨rfl, rfl⟩ := says_pure_iff.1 hend
        exact .seen found uuid huuid svm

/-- Looks at a machine until it is ready, when so many came before and so many are left. -/
inductive Wait (project : String) : (before left : Nat) → List Said → Polled Svm → Prop where
  | abandoned {before left : Nat} {said : List Said} (h : Observation project said none) :
      Wait project before (left + 1) said .cancelled
  | failed {before left : Nat} {said : List Said} {failure : Failure}
      (h : Observation project said (some (.error failure))) :
      Wait project before (left + 1) said (.failed failure)
  | ready {before left : Nat} {said : List Said} {svm : Svm}
      (h : Observation project said (some (.ok (.ready svm)))) :
      Wait project before (left + 1) said (.ready svm (before + 1))
  | exhausted {before : Nat} {said : List Said} {condition : String}
      (h : Observation project said (some (.ok (.pending condition)))) :
      Wait project before 1 said (.exhausted (before + 1) condition)
  | cancelled {before left : Nat} {said : List Said} {condition : String}
      (h : Observation project said (some (.ok (.pending condition)))) :
      Wait project before (left + 2) (said ++ [.cancelled]) .cancelled
  | again {before left : Nat} {said rest : List Said} {condition : String} {polled : Polled Svm}
      (h : Observation project said (some (.ok (.pending condition))))
      (hrest : Wait project (before + 1) (left + 1) rest polled) :
      Wait project before (left + 2) (said ++ rest) polled

theorem wait_of_said {pause : Engine Bool}
    (hpause : ∀ said going, Says pause said going → said = if going then [] else [.cancelled])
    (pauses : Nat) {before : Nat} {said : List Said} {polled : Polled Svm}
    (h : Says (RetryPolicy.lookAgain pause (lookAtSvm project) pauses before) said polled) :
    Wait project before (pauses + 1) said polled := by
  -- by recursion on the pauses that are left, of which there is one less than looks
  unfold RetryPolicy.lookAgain at h
  obtain ⟨_, rest, seen, rfl, hlook, hrest⟩ := says_bind_iff.1 h
  have hlook := observation_of_said hlook
  cases seen with
  | none =>
    obtain ⟨rfl, rfl⟩ := says_pure_iff.1 hrest
    exact List.append_nil _ ▸ .abandoned hlook
  | some reply =>
    rcases reply with failure | ⟨svm⟩ | ⟨condition⟩
    · obtain ⟨rfl, rfl⟩ := says_pure_iff.1 hrest
      exact List.append_nil _ ▸ .failed hlook
    · obtain ⟨rfl, rfl⟩ := says_pure_iff.1 hrest
      exact List.append_nil _ ▸ .ready hlook
    · cases pauses with
      | zero =>
        obtain ⟨rfl, rfl⟩ := says_pure_iff.1 hrest
        exact List.append_nil _ ▸ .exhausted hlook
      | succ pauses =>
        obtain ⟨_, _, going, rfl, hgoing, hend⟩ := says_bind_iff.1 hrest
        obtain rfl := hpause _ _ hgoing
        cases going with
        | true => exact .again hlook (wait_of_said hpause pauses hend)
        | false =>
          obtain ⟨rfl, rfl⟩ := says_pure_iff.1 hend
          exact .cancelled hlook

/-- How many looks a wait may take. -/
def looks (engine : Settings.Engine) : Nat := max 1 engine.readiness.maxAttempts.toNat

theorem pauses_ofSettings (readiness : Settings.Readiness) :
    (RetryPolicy.ofSettings readiness).pauses + 1 = max 1 readiness.maxAttempts.toNat := by
  rw [RetryPolicy.ofSettings, RetryPolicy.new, RetryPolicy.pauses]
  split
  · rename_i hzero
    rw [hzero]
    rfl
  · rename_i hpositive
    have hnat : readiness.maxAttempts.toNat ≠ 0 := fun hzero => hpositive (UInt32.toNat_inj.1 hzero)
    simp only
    omega

/-- What is said to wait for the machine of a project, unless the cancellation is there from the start. -/
inductive Awaiting (engine : Settings.Engine) (project : String) :
    List Said → Except Failure Svm → Prop where
  | forbidden :
      Awaiting engine project [.cancelled] (.error (.cancelled ("waiting for svm " ++ project)))
  | ready {said : List Said} {svm : Svm} {attempts : Nat}
      (h : Wait project 0 (looks engine) said (.ready svm attempts)) :
      Awaiting engine project said (.ok svm)
  | exhausted {said : List Said} {attempts : Nat} {condition : String}
      (h : Wait project 0 (looks engine) said (.exhausted attempts condition)) :
      Awaiting engine project said (.error (.readinessTimeout project attempts condition))
  | failed {said : List Said} {failure : Failure}
      (h : Wait project 0 (looks engine) said (.failed failure)) :
      Awaiting engine project said (.error failure)
  | cancelled {said : List Said} (h : Wait project 0 (looks engine) said .cancelled) :
      Awaiting engine project said (.error (.cancelled ("waiting for svm " ++ project)))

theorem awaiting_of_said {result : Except Failure Svm}
    (h : Says (awaitSvm (.ofSettings engine.readiness) project).run said result) :
    Awaiting engine project said result := by
  rw [awaitSvm, ExceptT.run_mk, says_bind_iff] at h
  obtain ⟨_, _, polled, rfl, hpoll, hrest⟩ := h
  obtain ⟨_, _, arrived, rfl, harrived, hlooks⟩ := says_bind_iff.1 hpoll
  obtain rfl := says_cancelled_iff.1 harrived
  cases arrived with
  | true =>
    obtain ⟨rfl, rfl⟩ := says_pure_iff.1 hlooks
    obtain ⟨rfl, rfl⟩ := says_pure_iff.1 hrest
    exact .forbidden
  | false =>
    have hwait := wait_of_said (fun _ _ => says_pause_iff.1) _ hlooks
    rw [pauses_ofSettings] at hwait
    -- what is counted after the wait is not said
    cases polled with
    | ready svm attempts =>
      obtain ⟨_, _, _, rfl, hcount, hend⟩ := says_bind_iff.1 hrest
      obtain rfl := says_count_iff.1 hcount
      obtain ⟨rfl, rfl⟩ := says_pure_iff.1 hend
      exact List.append_nil _ ▸ .ready hwait
    | exhausted attempts condition =>
      obtain ⟨_, _, _, rfl, hcount, hend⟩ := says_bind_iff.1 hrest
      obtain rfl := says_count_iff.1 hcount
      obtain ⟨rfl, rfl⟩ := says_pure_iff.1 hend
      exact List.append_nil _ ▸ .exhausted hwait
    | failed failure =>
      obtain ⟨rfl, rfl⟩ := says_pure_iff.1 hrest
      exact List.append_nil _ ▸ .failed hwait
    | cancelled =>
      obtain ⟨rfl, rfl⟩ := says_pure_iff.1 hrest
      exact List.append_nil _ ▸ .cancelled hwait

/-- The order of a project's machine: all aggregates in the order of their listing, with NVMe. -/
def svmOrder (project : String) (aggregates : List Aggregate) : Svm.Order :=
  { name := project, aggregates := aggregates.map (·.name), nvmeEnabled := true }

/-- What is said for the machine of a project: it is there, or it is ordered once and waited for. -/
inductive MachineTalk (engine : Settings.Engine) (project : String) :
    List Said → Except Failure (Svm × Bool) → Prop where
  | unread (failure : Failure) :
      MachineTalk engine project [.called (.controller (.svmByName project)) (.error failure)]
        (.error (.context project "look up svm" failure))
  | found (svm : Svm) :
      MachineTalk engine project [.called (.controller (.svmByName project)) (.ok (some svm))]
        (.ok (svm, false))
  | unlisted (failure : Failure) :
      MachineTalk engine project
        [.called (.controller (.svmByName project)) (.ok none),
          .called (.controller .aggregates) (.error failure)]
        (.error (.context project "list aggregates" failure))
  | refused (aggregates : List Aggregate) (failure : Failure) :
      MachineTalk engine project
        [.called (.controller (.svmByName project)) (.ok none),
          .called (.controller .aggregates) (.ok aggregates),
          .called (.controller (.createSvm (svmOrder project aggregates))) (.error failure)]
        (.error (.context project "create svm" failure))
  | unready (aggregates : List Aggregate) {said : List Said} {failure : Failure}
      (h : Awaiting engine project said (.error failure)) :
      MachineTalk engine project
        (.called (.controller (.svmByName project)) (.ok none) ::
          .called (.controller .aggregates) (.ok aggregates) ::
          .called (.controller (.createSvm (svmOrder project aggregates))) (.ok ()) :: said)
        (.error (.context project "wait for svm" failure))
  | ordered (aggregates : List Aggregate) {said : List Said} {svm : Svm}
      (h : Awaiting engine project said (.ok svm)) :
      MachineTalk engine project
        (.called (.controller (.svmByName project)) (.ok none) ::
          .called (.controller .aggregates) (.ok aggregates) ::
          .called (.controller (.createSvm (svmOrder project aggregates))) (.ok ()) :: said)
        (.ok (svm, true))

theorem machine_of_said {result : Except Failure (Svm × Bool)}
    (h : Says (ensureSvm engine project).run said result) : MachineTalk engine project said result := by
  rw [ensureSvm] at h
  rcases says_step_then_iff.1 h with ⟨failure, rfl, rfl⟩ | ⟨found, rest, rfl, hrest⟩
  · exact .unread failure
  · cases found with
    | some svm =>
      obtain ⟨rfl, rfl⟩ := says_return_iff.1 hrest
      exact .found svm
    | none =>
      simp only [orderSvm, bind_assoc] at hrest
      rcases says_step_then_iff.1 hrest with ⟨failure, rfl, rfl⟩ | ⟨aggregates, rest, rfl, hcreate⟩
      · exact .unlisted failure
      · rcases says_step_then_iff.1 hcreate with ⟨failure, rfl, rfl⟩ | ⟨value, rest, rfl, hcount⟩
        · exact .refused aggregates failure
        · have hwait := says_count_then_iff.1 hcount
          obtain ⟨inner, hwithin, rfl⟩ := says_map_iff.1 hwait
          obtain ⟨awaited, hawait, rfl⟩ := says_within_iff.1 hwithin
          cases awaited with
          | ok svm => exact .ordered aggregates (awaiting_of_said hawait)
          | error failure => exact .unready aggregates (awaiting_of_said hawait)

/-! ### The interfaces -/

/-- What is said to create interfaces in their order.  One that exists already is as good as a new one. -/
inductive Creation : List Interface → List Said → Except Failure Unit → Prop where
  | done : Creation [] [] (.ok ())
  | created {interface : Interface} {interfaces : List Interface} {said : List Said}
      {result : Except Failure Unit} (reply : Except Failure Unit)
      (hreply : ∀ failure, reply = .error failure → failure.isAlreadyExists = true)
      (hrest : Creation interfaces said result) :
      Creation (interface :: interfaces)
        (.called (.controller (.createInterface interface)) reply :: said) result
  | refused {interface : Interface} {interfaces : List Interface} (failure : Failure)
      (h : failure.isAlreadyExists = false) :
      Creation (interface :: interfaces)
        [.called (.controller (.createInterface interface)) (.error failure)]
        (.error (.interfaceCreation interface.name failure))

theorem interface_of_said {interface : Interface} {result : Except Failure Unit}
    (h : Says (createInterface interface).run said result) :
    ∃ reply, said = [.called (.controller (.createInterface interface)) reply] ∧
      ((∀ failure, reply = .error failure → failure.isAlreadyExists = true) ∧ result = .ok () ∨
        ∃ failure, reply = .error failure ∧ failure.isAlreadyExists = false ∧
          result = .error (.interfaceCreation interface.name failure)) := by
  rw [createInterface, ExceptT.run_mk, says_bind_iff] at h
  obtain ⟨_, _, reply, rfl, hcall, hrest⟩ := h
  obtain rfl := says_call_iff.1 hcall
  cases reply with
  | ok value =>
    obtain ⟨_, _, _, rfl, hcount, hend⟩ := says_bind_iff.1 hrest
    obtain rfl := says_count_iff.1 hcount
    obtain ⟨rfl, rfl⟩ := says_pure_iff.1 hend
    exact ⟨.ok value, rfl, .inl ⟨by rintro _ ⟨⟩, rfl⟩⟩
  | error failure =>
    cases hkind : failure.isAlreadyExists with
    | true =>
      simp only [hkind, if_true] at hrest
      obtain ⟨rfl, rfl⟩ := says_pure_iff.1 hrest
      exact ⟨.error failure, rfl, .inl ⟨by rintro _ ⟨⟩; exact hkind, rfl⟩⟩
    | false =>
      simp only [hkind, Bool.false_eq_true, if_false] at hrest
      obtain ⟨rfl, rfl⟩ := says_pure_iff.1 hrest
      exact ⟨.error failure, rfl, .inr ⟨failure, rfl, hkind, rfl⟩⟩

theorem creation_of_said {interfaces : List Interface} {said : List Said} {result : Except Failure Unit}
    (h : Says (createInterfaces interfaces).run said result) : Creation interfaces said result := by
  induction interfaces generalizing said with
  | nil =>
    obtain ⟨rfl, rfl⟩ := says_return_iff.1 h
    exact .done
  | cons interface interfaces ih =>
    rcases says_attempt_iff.1 h with ⟨failure, hcreate, rfl⟩ | ⟨_, _, value, rfl, hcreate, hrest⟩
    · obtain ⟨reply, rfl, ⟨-, hok⟩ | ⟨failure', rfl, hkind, hfailure⟩⟩ := interface_of_said hcreate
      · cases hok
      · cases hfailure
        exact .refused failure' hkind
    · obtain ⟨reply, rfl, ⟨hreply, -⟩ | ⟨_, -, -, hfailure⟩⟩ := interface_of_said hcreate
      · exact .created reply hreply (ih hrest)
      · cases hfailure

/-- What is said to connect a machine: the peer groups are counted once, then come the planned interfaces. -/
inductive Connection (engine : Settings.Engine) (endpoints : EndpointRequest) (nodes : List Node) :
    List Said → Except Failure (List Interface) → Prop where
  | unprobed (failure : Failure) :
      Connection engine endpoints nodes [.called (.controller .peerGroups) (.error failure)]
        (.error failure)
  | refused (groups : Nat) {interfaces : List Interface} {said : List Said} {failure : Failure}
      (hplan : endpoints.plan engine nodes (.ofPeerGroups groups) = .ok interfaces)
      (h : Creation interfaces said (.error failure)) :
      Connection engine endpoints nodes (.called (.controller .peerGroups) (.ok groups) :: said)
        (.error failure)
  | connected (groups : Nat) {interfaces : List Interface} {said : List Said}
      (hplan : endpoints.plan engine nodes (.ofPeerGroups groups) = .ok interfaces)
      (h : Creation interfaces said (.ok ())) :
      Connection engine endpoints nodes (.called (.controller .peerGroups) (.ok groups) :: said)
        (.ok interfaces)

/-- Where there are nodes there is a plan. -/
theorem plan_of_nodes {nodes : List Node} (h : nodes ≠ []) (endpoints : EndpointRequest)
    (mode : Addressing) : ∃ interfaces, endpoints.plan engine nodes mode = .ok interfaces := by
  cases nodes with
  | nil => exact absurd rfl h
  | cons first rest => exact ⟨_, rfl⟩

theorem connection_of_said {endpoints : EndpointRequest} {nodes : List Node} (hnodes : nodes ≠ [])
    {result : Except Failure (List Interface)}
    (h : Says (allocate engine endpoints nodes).run said result) :
    Connection engine endpoints nodes said result := by
  simp only [allocate, probeAddressing, bind_assoc, pure_bind] at h
  rcases says_call_then_iff.1 h with ⟨failure, rfl, rfl⟩ | ⟨groups, rest, rfl, hrest⟩
  · exact .unprobed failure
  · obtain ⟨interfaces, hplan⟩ := plan_of_nodes hnodes endpoints (.ofPeerGroups groups)
    rw [hplan] at hrest
    obtain ⟨inner, hcreate, rfl⟩ := says_map_iff.1 hrest
    cases inner with
    | ok value => exact .connected groups hplan (creation_of_said hcreate)
    | error failure => exact .refused groups hplan (creation_of_said hcreate)

/-! ### The whole -/

/-- The interfaces that a request asks for. -/
def Request.endpoints (request : Request) (svmUuid : String) : EndpointRequest :=
  { svmUuid, dataIps := request.dataIps, managementIp := request.managementIp }

/-- What is said in a run, and what it comes to. -/
inductive Dialogue (engine : Settings.Engine) (request : Request) :
    List Said → Except Failure Outcome → Prop where
  | invalid {failure : Failure} (h : request.validate = .error failure) :
      Dialogue engine request [] (.error failure)
  | unselected {said : List Said} {failure : Failure} (hvalid : request.validate = .ok ())
      (hnodes : Selection said (.error failure)) :
      Dialogue engine request said (.error (.context request.projectId "select nodes" failure))
  | unfurnished {said₁ said₂ : List Said} {nodes : List Node} {failure : Failure}
      (hvalid : request.validate = .ok ()) (hnodes : Selection said₁ (.ok nodes))
      (hsvm : MachineTalk engine request.projectId said₂ (.error failure)) :
      Dialogue engine request (said₁ ++ said₂) (.error failure)
  | nameless {said₁ said₂ : List Said} {nodes : List Node} {svm : Svm} {created : Bool}
      (hvalid : request.validate = .ok ()) (hnodes : Selection said₁ (.ok nodes))
      (hsvm : MachineTalk engine request.projectId said₂ (.ok (svm, created))) (huuid : svm.uuid = none) :
      Dialogue engine request (said₁ ++ said₂)
        (.error (.context request.projectId "resolve svm uuid" (.notFound "SvmUuid" svm.name)))
  | unconnected {said₁ said₂ said₃ : List Said} {nodes : List Node} {svm : Svm} {created : Bool}
      {uuid : String} {failure : Failure}
      (hvalid : request.validate = .ok ()) (hnodes : Selection said₁ (.ok nodes))
      (hsvm : MachineTalk engine request.projectId said₂ (.ok (svm, created)))
      (huuid : svm.uuid = some uuid)
      (hinterfaces : Connection engine (request.endpoints uuid) nodes said₃ (.error failure)) :
      Dialogue engine request (said₁ ++ (said₂ ++ said₃))
        (.error (.context request.projectId "allocate interfaces" failure))
  | reconciled {said₁ said₂ said₃ said₄ : List Said} {nodes : List Node} {svm : Svm} {created : Bool}
      {uuid : String} {interfaces : List Interface} {result : Except Failure CredentialOutcome}
      (hvalid : request.validate = .ok ()) (hnodes : Selection said₁ (.ok nodes))
      (hsvm : MachineTalk engine request.projectId said₂ (.ok (svm, created)))
      (huuid : svm.uuid = some uuid)
      (hinterfaces : Connection engine (request.endpoints uuid) nodes said₃ (.ok interfaces))
      (hcredentials : HandOff engine request.projectId svm said₄ result) :
      Dialogue engine request (said₁ ++ (said₂ ++ (said₃ ++ said₄)))
        ((result.mapError (.context request.projectId "reconcile credentials")).map
          fun credentials => { svm, created, interfaces, credentials })

/-- The nodes that were selected are at least two. -/
theorem Selection.ne_nil {nodes : List Node} (h : Selection said (.ok nodes)) : nodes ≠ [] := by
  cases h with
  | enough nodes h =>
    intro hnil
    have hlength := minNodes_le_iff.2 h
    rw [hnil] at hlength
    cases hlength

/-- A run says nothing else. -/
theorem dialogue_of_said {request : Request} {result : Except Failure Outcome}
    (h : Says (request.provision engine).run said result) : Dialogue engine request said result := by
  rw [Request.provision, ExceptT.run_mk, says_bind_iff] at h
  -- what is counted in the end is not said
  obtain ⟨_, _, inner, rfl, hsteps, hcount⟩ := h
  obtain ⟨_, _, _, rfl, hcounted, hend⟩ := says_bind_iff.1 hcount
  obtain rfl := says_count_iff.1 hcounted
  obtain ⟨rfl, rfl⟩ := says_pure_iff.1 hend
  -- step by step: where one fails the run is over, otherwise it goes on with what the step has found
  rw [Request.steps] at hsteps
  simp only [List.append_nil]
  rcases says_check_iff.1 hsteps with ⟨failure, hinvalid, rfl, rfl⟩ | ⟨_, hvalid, hselect⟩
  · exact .invalid hinvalid
  rcases says_within_then_iff.1 hselect with ⟨failure, hnodes, rfl⟩ | ⟨_, _, nodes, rfl, hnodes, hensure⟩
  · exact .unselected hvalid (selection_of_said hnodes)
  have hnodes := selection_of_said hnodes
  rcases says_attempt_iff.1 hensure with
    ⟨failure, hsvm, rfl⟩ | ⟨_, _, ⟨svm, created⟩, rfl, hsvm, hresolve⟩
  · exact .unfurnished hvalid hnodes (machine_of_said hsvm)
  have hsvm := machine_of_said hsvm
  rcases says_within_then_iff.1 hresolve with
    ⟨failure, hcheck, rfl⟩ | ⟨_, _, uuid, rfl, hcheck, hallocate⟩
  · obtain ⟨rfl, hfailed⟩ := says_except_iff.1 hcheck
    obtain ⟨hnameless, rfl⟩ := requireUuid_eq_error_iff.1 hfailed.symm
    rw [List.append_nil]
    exact .nameless hvalid hnodes hsvm hnameless
  obtain ⟨rfl, hresolved⟩ := says_except_iff.1 hcheck
  have huuid := requireUuid_eq_ok_iff.1 hresolved.symm
  rcases says_within_then_iff.1 hallocate with
    ⟨failure, hconnect, rfl⟩ | ⟨_, _, interfaces, rfl, hconnect, hreconcile⟩
  · have hconnect := connection_of_said hnodes.ne_nil hconnect
    exact .unconnected hvalid hnodes hsvm huuid hconnect
  have hconnect := connection_of_said hnodes.ne_nil hconnect
  obtain ⟨reconciled, hwithin, rfl⟩ := says_map_iff.1 hreconcile
  obtain ⟨credentials, hcredentials, rfl⟩ := says_within_iff.1 hwithin
  rw [List.nil_append]
  exact .reconciled hvalid hnodes hsvm huuid hconnect (handOff_of_said hcredentials)

/-! ### Nothing after the end -/

theorem Selection.steady {result : Except Failure (List Node)} (h : Selection said result) :
    Steady said result := by
  cases h with
  | unread failure => exact .of_error (.singleton _)
  | few nodes _ => exact .of_error (.singleton _)
  | enough nodes _ => exact .of_goesOn (by simp [Said.GoesOn])

theorem Observation.unbroken {seen : Option (Except Failure (Probe Svm))}
    (h : Observation project said seen) : Unbroken said := by
  cases h with
  | abandoned | unread _ | invisible | nameless _ _ => exact .singleton _
  | abandonedThen _ _ _ | unreadThen _ _ _ _ | seen _ _ _ _ => exact .cons trivial (.singleton _)

/-- A look that was not stopped goes on. -/
theorem Observation.goesOn {probe : Probe Svm} (h : Observation project said (some (.ok probe))) :
    ∀ x ∈ said, x.GoesOn := by
  cases h <;> simp [Said.GoesOn]

theorem Wait.unbroken {before left : Nat} {polled : Polled Svm}
    (h : Wait project before left said polled) : Unbroken said := by
  induction h with
  | abandoned h | failed h | ready h | exhausted h => exact h.unbroken
  | cancelled h => exact .append h.goesOn (.singleton _)
  | again h _ ih => exact .append h.goesOn ih

theorem Wait.goesOn {before left attempts : Nat} {svm : Svm}
    (h : Wait project before left said (.ready svm attempts)) : ∀ x ∈ said, x.GoesOn := by
  -- by induction on the looks, with the end of the wait kept for the last one
  generalize hpolled : Polled.ready svm attempts = polled at h
  induction h with
  | ready h => exact h.goesOn
  | again h _ ih =>
    intro x hx
    rcases List.mem_append.1 hx with hx | hx
    · exact h.goesOn x hx
    · exact ih hpolled x hx
  | abandoned | failed | exhausted | cancelled => cases hpolled

theorem Awaiting.steady {result : Except Failure Svm} (h : Awaiting engine project said result) :
    Steady said result := by
  cases h with
  | forbidden => exact .of_error (.singleton _)
  | ready h => exact .of_goesOn h.goesOn
  | exhausted h | failed h | cancelled h => exact .of_error h.unbroken

theorem MachineTalk.steady {result : Except Failure (Svm × Bool)}
    (h : MachineTalk engine project said result) : Steady said result := by
  cases h with
  | unread failure => exact .of_error (.singleton _)
  | found svm => exact .of_goesOn (by simp [Said.GoesOn])
  | unlisted failure => exact .of_error (.cons trivial (.singleton _))
  | refused aggregates failure => exact .of_error (.cons trivial (.cons trivial (.singleton _)))
  | unready aggregates h =>
    exact .of_error (.cons trivial (.cons trivial (.cons trivial h.steady.unbroken)))
  | ordered aggregates h =>
    exact .of_goesOn (by simpa [Said.GoesOn] using h.steady.goesOn _ rfl)

theorem Creation.steady {interfaces : List Interface} {result : Except Failure Unit}
    (h : Creation interfaces said result) : Steady said result := by
  induction h with
  | done => exact .of_goesOn (by simp)
  | @created interface _ _ _ reply hreply _ ih =>
    have hgoesOn : (Said.called (.controller (.createInterface interface)) reply).GoesOn := by
      cases reply with
      | ok value => trivial
      | error failure => exact ⟨rfl, hreply failure rfl⟩
    exact ih.cons hgoesOn
  | refused failure h => exact .of_error (.singleton _)

theorem Connection.steady {endpoints : EndpointRequest} {nodes : List Node}
    {result : Except Failure (List Interface)} (h : Connection engine endpoints nodes said result) :
    Steady said result := by
  cases h with
  | unprobed failure => exact .of_error (.singleton _)
  | refused groups _ h => exact .of_error (.cons trivial h.steady.unbroken)
  | connected groups _ h =>
    exact .of_goesOn (List.forall_mem_cons.2 ⟨trivial, h.steady.goesOn () rfl⟩)

theorem Dialogue.unbroken {request : Request} {result : Except Failure Outcome}
    (h : Dialogue engine request said result) : Unbroken said := by
  cases h with
  | invalid _ => exact .nil
  | unselected _ hnodes => exact hnodes.steady.unbroken
  | unfurnished _ hnodes hsvm => exact hnodes.steady.append hsvm.steady.unbroken
  | nameless _ hnodes hsvm _ => exact hnodes.steady.append hsvm.steady.unbroken
  | unconnected _ hnodes hsvm _ hinterfaces =>
    exact hnodes.steady.append (hsvm.steady.append hinterfaces.steady.unbroken)
  | reconciled _ hnodes hsvm _ hinterfaces hcredentials =>
    exact hnodes.steady.append
      (hsvm.steady.append (hinterfaces.steady.append hcredentials.unbroken))

/-- **The discipline of a run.**  Whatever the two systems reply and whenever the cancellation arrives, a run
    asks for the nodes, for the machine, for its interfaces and for its credentials as `Dialogue` says, ends
    with what the last reply makes of it, and asks for nothing after a failure or the cancellation. -/
theorem dialogue_provision (engine : Settings.Engine) (request : Request) {σ : Type}
    (handle : (action : Action) → σ → action.Answer × σ) (s : σ) :
    Dialogue engine request (conversation handle (request.provision engine).run s)
        (Program.run (S := actions) handle (request.provision engine).run s).1 ∧
      Unbroken (conversation handle (request.provision engine).run s) := by
  have hdialogue := dialogue_of_said (says_run handle (request.provision engine).run s)
  exact ⟨hdialogue, hdialogue.unbroken⟩

end TenantStorage.Provision
