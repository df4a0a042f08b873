import Mathlib.Algebra.Order.Floor.Div
import Mathlib.Data.Int.CardIntervalMod
import Mathlib.Data.List.FinRange
import TenantStorage.Proofs.Provision.Discipline
import TenantStorage.Proofs.Provision.Steps

namespace TenantStorage.Provision

/-!
# Where interfaces are placed

The nodes are those of a listing without repetitions, and the data interfaces go to them in turn.

* `firstOccurrences` — the nodes that are listed for the first time; `distinctNodes_eq` — they are the ones
  that are selected.
* `dataEndpoints_eq` — the data interfaces, each by its position.
* `countP_mod`, `toFinset_map_mod` — how often each node comes in turn, and which nodes come at all.
* `Placed` — how interfaces are spread; `placed_of_nodup` — so they are in a plan for different nodes.
* `placement_of_listing` — from any listing to the plan.
-/

variable {engine : Settings.Engine} {nodes : List Node}

/-! ### The nodes -/

/-- The nodes at positions at which their identifier is listed for the first time. -/
def firstOccurrences (nodes : List Node) : List Node :=
  ((List.finRange nodes.length).filter fun i => ∀ j < i, (nodes.get j).uuid ≠ (nodes.get i).uuid).map nodes.get

/-- At a later position a node is listed for the first time if the head has another identifier and the rest lists
    it for the first time. -/
theorem first_succ_iff (head : Node) (rest : List Node) (i : Fin rest.length) :
    (∀ j < i.succ, ((head :: rest).get j).uuid ≠ ((head :: rest).get i.succ).uuid) ↔
      head.uuid ≠ (rest.get i).uuid ∧ ∀ j < i, (rest.get j).uuid ≠ (rest.get i).uuid := by
  rw [Fin.forall_fin_succ]
  simp [Fin.succ_pos]

/-- The nodes that are left when some identifiers were seen before, by their positions. -/
theorem firstNodes_eq (seen : List String) (nodes : List Node) :
    firstNodes seen nodes = ((List.finRange nodes.length).filter fun i =>
      (nodes.get i).uuid ∉ seen ∧ ∀ j < i, (nodes.get j).uuid ≠ (nodes.get i).uuid).map nodes.get := by
  induction nodes generalizing seen with
  | nil => rfl
  | cons head rest ih =>
    have hrest : (((List.finRange rest.length).map Fin.succ).filter fun i : Fin (rest.length + 1) =>
        ((head :: rest).get i).uuid ∉ seen ∧
          ∀ j < i, ((head :: rest).get j).uuid ≠ ((head :: rest).get i).uuid).map (head :: rest).get =
        ((List.finRange rest.length).filter fun i => (rest.get i).uuid ∉ seen ∧
          head.uuid ≠ (rest.get i).uuid ∧ ∀ j < i, (rest.get j).uuid ≠ (rest.get i).uuid).map rest.get := by
      rw [List.filter_map, List.map_map]
      simp only [Function.comp_def, first_succ_iff]
      rfl
    simp only [firstNodes, List.length_cons, List.finRange_succ, List.filter_cons]
    -- a head that was seen bars no more than was barred before; any other is kept and bars its identifier
    by_cases hseen : head.uuid ∈ seen
    · rw [if_pos (List.contains_iff_mem.2 hseen), if_neg (by simp [hseen]), hrest, ih]
      congr 1
      refine List.filter_congr fun i _ => decide_eq_decide.2 ⟨fun h => ?_, fun h => ⟨h.1, h.2.2⟩⟩
      exact ⟨h.1, fun hsame => h.1 (hsame ▸ hseen), h.2⟩
    · rw [if_neg (by simpa using hseen), if_pos (by simpa using hseen), List.map_cons, hrest, ih]
      congr 2
      refine List.filter_congr fun i _ => decide_eq_decide.2 ?_
      rw [List.mem_cons, not_or, and_assoc, eq_comm, and_left_comm]

theorem distinctNodes_eq (nodes : List Node) : distinctNodes nodes = firstOccurrences nodes := by
  rw [distinctNodes, firstNodes_eq, firstOccurrences]
  simp only [List.not_mem_nil, not_false_eq_true, true_and]

theorem nodup_uuids_firstNodes (seen : List String) (nodes : List Node) :
    ((firstNodes seen nodes).map (·.uuid)).Nodup := by
  induction nodes generalizing seen with
  | nil => exact List.nodup_nil
  | cons head rest ih =>
    rw [firstNodes]
    split
    · exact ih seen
    · rw [List.map_cons, List.nodup_cons]
      refine ⟨fun hmem => ?_, ih _⟩
      obtain ⟨node, hnode, huuid⟩ := List.mem_map.1 hmem
      exact (mem_firstNodes hnode).2 (huuid ▸ List.mem_cons_self)

/-- The identifiers that a listing contains. -/
def identifiers (nodes : List Node) : Finset String := (nodes.map (·.uuid)).toFinset

/-- As many nodes are selected as there are identifiers. -/
theorem length_distinctNodes (nodes : List Node) : (distinctNodes nodes).length = (identifiers nodes).card := by
  have hsame : identifiers (distinctNodes nodes) = identifiers nodes := by
    ext uuid
    simp only [identifiers, List.mem_toFinset, List.mem_map]
    constructor
    · rintro ⟨node, hnode, rfl⟩
      exact ⟨node, (mem_firstNodes hnode).1, rfl⟩
    · rintro ⟨node, hnode, rfl⟩
      exact exists_mem_firstNodes hnode List.not_mem_nil
  have hnodup : ((distinctNodes nodes).map (·.uuid)).Nodup := nodup_uuids_firstNodes [] nodes
  rw [← hsame, identifiers, List.toFinset_card_of_nodup hnodup, List.length_map]

/-! ### The plan -/

theorem dataEndpoints_eq (engine : Settings.Engine) (uuid : String) (nodes : List Node) (mode : Addressing)
    (index : Nat) (ips : List Address) :
    dataEndpoints engine uuid nodes mode index ips = ips.mapIdx fun i ip =>
      endpoint (engine.dataInterfaceName (index + i)) ip .data uuid
        (nodes[(index + i) % nodes.length]?.getD default) mode := by
  induction ips generalizing index with
  | nil => rfl
  | cons ip rest ih =>
    rw [dataEndpoints, ih, List.mapIdx_cons]
    simp only [Nat.add_zero, Nat.add_assoc, Nat.add_comm 1]

/-! ### Taking turns -/

/-- Of `k` turns among `n` each gets `k / n`, and the first `k % n` get one more. -/
theorem countP_mod {n j : Nat} (h : j < n) (k : Nat) :
    (List.range k).countP (· % n = j) = k / n + if j < k % n then 1 else 0 := by
  have hcount : (List.range k).countP (· % n = j) = k.count (· ≡ j [MOD n]) := by
    induction k with
    | zero => rfl
    | succ k ih =>
      rw [List.range_succ, List.countP_append, ih, Nat.count_succ]
      simp [List.countP_cons, Nat.ModEq, Nat.mod_eq_of_lt h]
  rw [hcount, Nat.count_modEq_card k (by omega), Nat.mod_eq_of_lt h]

/-- The turns of `k` among `n` are those of the first `k`, or of all. -/
theorem toFinset_map_mod {n : Nat} (hn : 0 < n) (k : Nat) :
    ((List.range k).map (· % n)).toFinset = Finset.range (min k n) := by
  ext j
  simp only [List.mem_toFinset, List.mem_map, List.mem_range, Finset.mem_range]
  constructor
  · rintro ⟨i, hi, rfl⟩
    have hmod := Nat.mod_lt i hn
    have hle := Nat.mod_le i n
    omega
  · intro hj
    exact ⟨j, by omega, Nat.mod_eq_of_lt (by omega)⟩

/-! ### The interfaces of each node -/

/-- The identifier of the node at a position. -/
def uuidAt (nodes : List Node) (position : Nat) : String := (nodes[position]?.getD default).uuid

theorem getElem?_uuids {position : Nat} (h : position < nodes.length) :
    (nodes.map (·.uuid))[position]? = some (uuidAt nodes position) := by
  rw [List.getElem?_map, uuidAt, List.getElem?_eq_getElem h]
  rfl

theorem uuidAt_inj (hdistinct : (nodes.map (·.uuid)).Nodup) {i j : Nat} (hi : i < nodes.length)
    (hj : j < nodes.length) (h : uuidAt nodes i = uuidAt nodes j) : i = j := by
  have hlength : i < (nodes.map (·.uuid)).length := by rwa [List.length_map]
  exact (List.getElem?_inj hlength hdistinct).1 (by rw [getElem?_uuids hi, getElem?_uuids hj, h])

/-- How many data interfaces a node hosts. -/
def hosted (interfaces : List Interface) (node : Node) : Nat :=
  interfaces.countP fun interface => interface.role = .data ∧ interface.nodeUuid = node.uuid

/-- The nodes that host data interfaces. -/
def hosts (interfaces : List Interface) : Finset String :=
  ((interfaces.filter (·.role = .data)).map (·.nodeUuid)).toFinset

/-- How the interfaces of a machine are spread over nodes. -/
structure Placed (engine : Settings.Engine) (request : EndpointRequest) (nodes : List Node)
    (mode : Addressing) (interfaces : List Interface) : Prop where
  length : interfaces.length = request.dataIps.length + 1
  /-- The data interfaces in the order of their addresses, on the nodes in turn. -/
  data : ∀ i ip, request.dataIps[i]? = some ip → ∃ node, nodes[i % nodes.length]? = some node ∧
    interfaces[i]? = some {
      name := engine.dataInterfaceTag ++ i.repr
      ip
      netmask := mode.netmask
      role := .data
      vip := mode.vip
      servicePolicy := "default-data-nvme-tcp"
      svmUuid := request.svmUuid
      nodeUuid := node.uuid }
  /-- The management interface comes last, on the first node. -/
  management : ∃ node, nodes[0]? = some node ∧
    interfaces[request.dataIps.length]? = some {
      name := engine.managementInterfaceTag
      ip := request.managementIp
      netmask := mode.netmask
      role := .management
      vip := mode.vip
      servicePolicy := "default-management"
      svmUuid := request.svmUuid
      nodeUuid := node.uuid }
  /-- Each node hosts an equal share of the data interfaces, rounded down or up. -/
  balanced : ∀ node ∈ nodes, hosted interfaces node = request.dataIps.length / nodes.length ∨
    hosted interfaces node = request.dataIps.length ⌈/⌉ nodes.length
  spread : (hosts interfaces).card = min request.dataIps.length nodes.length

theorem nodes_dataEndpoints (engine : Settings.Engine) (uuid : String) (nodes : List Node) (mode : Addressing)
    (ips : List Address) :
    (dataEndpoints engine uuid nodes mode 0 ips).map (·.nodeUuid) =
      (List.range ips.length).map fun i => uuidAt nodes (i % nodes.length) := by
  rw [dataEndpoints_eq]
  refine List.ext_getElem (by simp) fun i hi hi' => ?_
  simp [endpoint, uuidAt]

theorem role_dataEndpoints {uuid : String} {mode : Addressing} {ips : List Address} {interface : Interface}
    (h : interface ∈ dataEndpoints engine uuid nodes mode 0 ips) : interface.role = .data := by
  rw [dataEndpoints_eq] at h
  obtain ⟨i, hi, rfl⟩ := List.mem_mapIdx.1 h
  rfl

/-- A node hosts as many data interfaces as it has turns; the management interface is not counted. -/
theorem hosted_plan (engine : Settings.Engine) (uuid : String) (mode : Addressing) (ips : List Address)
    {management : Interface} (hrole : management.role = .management)
    (hdistinct : (nodes.map (·.uuid)).Nodup) {j : Nat} {node : Node} (hnode : nodes[j]? = some node) :
    hosted (dataEndpoints engine uuid nodes mode 0 ips ++ [management]) node =
      ips.length / nodes.length + if j < ips.length % nodes.length then 1 else 0 := by
  obtain ⟨hj, rfl⟩ := List.getElem?_eq_some_iff.1 hnode
  have huuid : nodes[j].uuid = uuidAt nodes j := by rw [uuidAt, hnode]; rfl
  have hdata : (dataEndpoints engine uuid nodes mode 0 ips).countP
      (fun interface => interface.role = .data ∧ interface.nodeUuid = nodes[j].uuid) =
      ((dataEndpoints engine uuid nodes mode 0 ips).map (·.nodeUuid)).countP (· = nodes[j].uuid) := by
    rw [List.countP_map]
    exact List.countP_congr fun interface hmem => by simp [role_dataEndpoints hmem]
  -- different positions have different identifiers, so only the node's own turns count
  have hturns : (List.range ips.length).countP (fun i => uuidAt nodes (i % nodes.length) = nodes[j].uuid) =
      (List.range ips.length).countP (· % nodes.length = j) := by
    refine List.countP_congr fun i _ => ?_
    rw [decide_eq_true_iff, decide_eq_true_iff, huuid]
    exact ⟨uuidAt_inj hdistinct (Nat.mod_lt i (by omega)) hj, fun h => by rw [h]⟩
  rw [hosted, List.countP_append, hdata, nodes_dataEndpoints, List.countP_map]
  simp only [Function.comp_def, hturns, countP_mod hj]
  simp [hrole]

/-- Of the nodes the first ones host data interfaces, as many as there are addresses, or all. -/
theorem hosts_plan (engine : Settings.Engine) (uuid : String) (mode : Addressing) (ips : List Address)
    {management : Interface} (hrole : management.role = .management) (hnodes : nodes ≠ []) :
    hosts (dataEndpoints engine uuid nodes mode 0 ips ++ [management]) =
      (Finset.range (min ips.length nodes.length)).image (uuidAt nodes) := by
  have hdata : (dataEndpoints engine uuid nodes mode 0 ips).filter (·.role = .data) =
      dataEndpoints engine uuid nodes mode 0 ips :=
    List.filter_eq_self.2 fun interface hmem => by simp [role_dataEndpoints hmem]
  have hmanagement : [management].filter (·.role = .data) = [] := by simp [hrole]
  rw [hosts, List.filter_append, hdata, hmanagement, List.append_nil, nodes_dataEndpoints,
    ← toFinset_map_mod (List.length_pos_iff.2 hnodes)]
  ext uuid
  simp

/-- A share that is not even, rounded up. -/
theorem div_add_one_of_mod {k n : Nat} (hn : 0 < n) (h : 0 < k % n) : k / n + 1 = k ⌈/⌉ n := by
  have hsplit : k + n - 1 = (k % n - 1) + n * (k / n + 1) := by
    have hdivmod := Nat.mod_add_div k n
    rw [Nat.mul_succ]
    omega
  rw [Nat.ceilDiv_eq_add_pred_div, hsplit, Nat.add_mul_div_left _ _ hn,
    Nat.div_eq_of_lt ((Nat.sub_le _ _).trans_lt (Nat.mod_lt k hn)), Nat.zero_add]

/-- The plan for nodes with different identifiers. -/
theorem placed_of_nodup (engine : Settings.Engine) (request : EndpointRequest) (mode : Addressing)
    {interfaces : List Interface} (hdistinct : (nodes.map (·.uuid)).Nodup)
    (h : request.plan engine nodes mode = .ok interfaces) :
    Placed engine request nodes mode interfaces := by
  match nodes, hdistinct, h with
  | first :: rest, hdistinct, rfl =>
    have hpos : 0 < (first :: rest).length := Nat.succ_pos _
    have hlength : (dataEndpoints engine request.svmUuid (first :: rest) mode 0 request.dataIps).length =
        request.dataIps.length := by rw [dataEndpoints_eq, List.length_mapIdx]
    exact
      { length := by rw [List.length_append, hlength]; rfl
        data := fun i ip hip => by
          obtain ⟨hi, rfl⟩ := List.getElem?_eq_some_iff.1 hip
          have hturn := List.getElem?_eq_getElem (Nat.mod_lt i hpos)
          refine ⟨_, hturn, ?_⟩
          rw [List.getElem?_append_left (by rwa [hlength]), dataEndpoints_eq, List.getElem?_mapIdx, hip,
            Nat.zero_add, hturn]
          rfl
        management := ⟨first, rfl, by
          rw [List.getElem?_append_right (by rw [hlength]), hlength, Nat.sub_self]
          rfl⟩
        balanced := fun node hnode => by
          obtain ⟨j, hj⟩ := List.getElem?_of_mem hnode
          rw [hosted_plan engine request.svmUuid mode request.dataIps rfl hdistinct hj]
          split
          · exact .inr (div_add_one_of_mod hpos (by omega))
          · exact .inl (Nat.add_zero _)
        spread := by
          rw [hosts_plan engine request.svmUuid mode request.dataIps rfl (List.cons_ne_nil _ _),
            Finset.card_image_of_injOn, Finset.card_range]
          intro i hi j hj h
          rw [Finset.mem_coe, Finset.mem_range] at hi hj
          exact uuidAt_inj hdistinct (by omega) (by omega) h }

/-! ### From the listing -/

/-- A listing contains enough nodes if it contains two identifiers. -/
theorem selectionOf_eq (nodes : List Node) : selectionOf nodes =
    if (identifiers nodes).card < 2 then .error (.insufficientNodes (identifiers nodes).card 2)
    else .ok (firstOccurrences nodes) := by
  rw [selectionOf, length_distinctNodes, distinctNodes_eq]
  rfl

/-- Under any handler the answer to one call decides which nodes are selected. -/
theorem run_selectNodes {σ : Type} (handle : (action : Action) → σ → action.Answer × σ) (s : σ) :
    (Program.run (S := actions) handle selectNodes.run s).1 =
      Except.bind (handle (.call (.controller .nodes)) s).1 selectionOf := by
  have hselected : Program.Ensures (fun action s answer s' => (answer, s') = handle action s) Program.anyStep
      (fun result _ => result = Except.bind (handle (.call (.controller .nodes)) s).1 selectionOf)
      selectNodes.run s := by
    refine ensures_selection fun answer s' hanswer => ⟨trivial, ?_⟩
    exact congrArg (Except.bind · selectionOf) (congrArg Prod.fst hanswer)
  exact hselected.run fun _ _ => rfl

/-- The nodes are selected if the cluster lists two different ones, and then every plan is spread over the first
    occurrences of all of them. -/
theorem placement_of_listing {σ : Type} (handle : (action : Action) → σ → action.Answer × σ) (s : σ)
    (engine : Settings.Engine) (request : EndpointRequest) (mode : Addressing) :
    let selected := (Program.run (S := actions) handle selectNodes.run s).1
    match (handle (.call (.controller .nodes)) s).1 with
    | .error failure => selected = .error failure
    | .ok nodes =>
      if (identifiers nodes).card < 2 then
        selected = .error (.insufficientNodes (identifiers nodes).card 2)
      else
        selected = .ok (firstOccurrences nodes) ∧ (firstOccurrences nodes).length = (identifiers nodes).card ∧
          ∃ interfaces, request.plan engine (firstOccurrences nodes) mode = .ok interfaces ∧
            Placed engine request (firstOccurrences nodes) mode interfaces := by
  intro selected
  have hselected : selected = _ := run_selectNodes handle s
  generalize (handle (.call (.controller .nodes)) s).1 = answer at hselected
  rcases answer with failure | nodes
  · exact hselected
  · have hlength : (firstOccurrences nodes).length = (identifiers nodes).card := by
      rw [← distinctNodes_eq, length_distinctNodes]
    have hdistinct : ((firstOccurrences nodes).map (·.uuid)).Nodup :=
      distinctNodes_eq nodes ▸ nodup_uuids_firstNodes [] nodes
    rw [Except.bind, selectionOf_eq] at hselected
    by_cases hfew : (identifiers nodes).card < 2
    · simpa only [hfew, if_true] using hselected
    · simp only [hfew, if_false] at hselected ⊢
      have hnodes : firstOccurrences nodes ≠ [] := List.length_pos_iff.1 (by omega)
      obtain ⟨interfaces, hplan⟩ := plan_of_nodes hnodes request mode
      exact ⟨hselected, hlength, interfaces, hplan, placed_of_nodup engine request mode hdistinct hplan⟩

end TenantStorage.Provision
