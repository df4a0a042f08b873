import TenantStorage.Proofs.Provision.Placement
import TenantStorage.Proofs.Provision.InterfaceNames

namespace TenantStorage

open Systems

/-!
# More addresses for a machine

A request for further addresses plans what the request before planned, and the further interfaces.  The place of
an interface in the plan decides its name and its node, and the management interface has its name from the
settings, so nothing that was planned before looks different in the longer plan.

* `withAdded_of_present` — interfaces that are there already change nothing.
* `dataEndpoints_append`, `Grown` — a plan and the one for more addresses.
* `withAdded_grown` — what a controller makes of both, one after the other.
* `allocate_grows` — the second allocation adds the further interfaces and nothing else.
-/

/-- Interfaces whose places are taken already are not created. -/
theorem withAdded_of_present {present interfaces : List Interface}
    (h : ∀ interface ∈ interfaces, interface.place ∈ present.map (·.place)) :
    withAdded present interfaces = present := by
  induction interfaces with
  | nil => rfl
  | cons interface rest ih =>
    obtain ⟨hfirst, hrest⟩ := List.forall_mem_cons.1 h
    have hstep : withAdded present (interface :: rest) = withAdded present rest := by
      rw [withAdded, List.foldl_cons, addInterface, if_pos hfirst]
      rfl
    rw [hstep, ih hrest]

namespace Provision

variable {engine : Settings.Engine} {nodes : List Node} {uuid : String} {ip : Address} {mode : Addressing}
  {xs ys : List Address}

/-! ### The longer plan -/

/-- The interfaces for further addresses are planned as if the others were not there, but for their index. -/
theorem dataEndpoints_append (engine : Settings.Engine) (uuid : String) (nodes : List Node) (mode : Addressing)
    (index : Nat) (xs ys : List Address) :
    dataEndpoints engine uuid nodes mode index (xs ++ ys) =
      dataEndpoints engine uuid nodes mode index xs ++
        dataEndpoints engine uuid nodes mode (index + xs.length) ys := by
  induction xs generalizing index with
  | nil => rfl
  | cons ip rest ih =>
    rw [List.cons_append, dataEndpoints, dataEndpoints, ih, List.length_cons, Nat.add_right_comm, Nat.add_assoc]
    rfl

/-- The plan for some addresses, and the plan for the same and further ones: the data interfaces of the first
    plan, the further ones, and the same management interface. -/
structure Grown (engine : Settings.Engine) (nodes : List Node) (uuid : String) (ip : Address)
    (mode : Addressing) (xs ys : List Address) (data further : List Interface) (management : Interface) :
    Prop where
  before : (EndpointRequest.mk uuid xs ip).plan engine nodes mode = .ok (data ++ [management])
  after : (EndpointRequest.mk uuid (xs ++ ys) ip).plan engine nodes mode =
    .ok (data ++ further ++ [management])
  length_data : data.length = xs.length
  length_further : further.length = ys.length
  /-- The further interfaces have the names of the indexes behind those of the first plan. -/
  names : further.map (·.name) = (List.range' xs.length ys.length).map engine.dataInterfaceName
  roles : (∀ interface ∈ data ++ further, interface.role = .data) ∧ management.role = .management

theorem exists_grown (engine : Settings.Engine) (hnodes : nodes ≠ []) (uuid : String) (ip : Address)
    (mode : Addressing) (xs ys : List Address) :
    ∃ data further management, Grown engine nodes uuid ip mode xs ys data further management := by
  cases nodes with
  | nil => exact absurd rfl hnodes
  | cons first rest =>
    have happend := dataEndpoints_append engine uuid (first :: rest) mode 0 xs ys
    rw [Nat.zero_add] at happend
    exact ⟨_, _, _, {
      before := rfl
      after := congrArg (fun data => Except.ok (data ++ _)) happend
      length_data := by rw [dataEndpoints_eq, List.length_mapIdx]
      length_further := by rw [dataEndpoints_eq, List.length_mapIdx]
      names := (names_dataEndpoints engine uuid (first :: rest) mode ys xs.length).1
      roles := ⟨fun interface hmem => role_dataEndpoints (happend ▸ hmem), rfl⟩ }⟩

/-! ### Both plans on a controller -/

/-- If the planned names are distinct, and the machine has no interface with one of them, the first plan is
    added as a whole, and of the longer one the further interfaces. -/
theorem withAdded_grown {data further present : List Interface} {management : Interface}
    (h : Grown engine nodes uuid ip mode xs ys data further management)
    (hnodup : ((data ++ further ++ [management]).map (·.name)).Nodup)
    (hfree : ∀ interface ∈ present, interface.svmUuid = uuid →
      interface.name ∉ (data ++ further ++ [management]).map (·.name)) :
    withAdded present (data ++ [management]) = present ++ (data ++ [management]) ∧
      withAdded (present ++ (data ++ [management])) (data ++ further ++ [management]) =
        present ++ (data ++ [management]) ++ further := by
  have howner := (names_plan h.after).2
  have hplaces : ((data ++ further ++ [management]).map (·.place)).Nodup := nodup_places hnodup
  have hnew : ∀ interface ∈ data ++ further ++ [management], interface.place ∉ present.map (·.place) := by
    intro interface hmem hplace
    obtain ⟨other, hother, hsame⟩ := List.mem_map.1 hplace
    have hname : other.name = interface.name := congrArg Prod.fst hsame
    have hmachine : other.svmUuid = uuid := (congrArg Prod.snd hsame).trans (howner interface hmem)
    exact hfree other hother hmachine (hname ▸ List.mem_map.2 ⟨interface, hmem, rfl⟩)
  have hsub : (data ++ [management]).Sublist (data ++ further ++ [management]) :=
    (List.sublist_append_left data further).append (List.Sublist.refl _)
  constructor
  · exact withAdded_of_new (hplaces.sublist (hsub.map _)) fun interface hmem => hnew interface (hsub.subset hmem)
  · have hdata : withAdded (present ++ (data ++ [management])) data = present ++ (data ++ [management]) :=
      withAdded_of_present fun interface hmem => List.mem_map.2 ⟨interface, by simp [hmem], rfl⟩
    have hfurther : withAdded (present ++ (data ++ [management])) further =
        present ++ (data ++ [management]) ++ further := by
      rw [List.map_append, List.map_append] at hplaces
      obtain ⟨hfront, -, hlast⟩ := List.nodup_append.1 hplaces
      obtain ⟨-, hnodupFurther, hapart⟩ := List.nodup_append.1 hfront
      refine withAdded_of_new hnodupFurther fun interface hmem hplace => ?_
      -- a further interface has the place of none that was there, nor of one of the first plan
      have hmemPlace : interface.place ∈ further.map (·.place) := List.mem_map.2 ⟨interface, hmem, rfl⟩
      simp only [List.map_append, List.mem_append, List.map_singleton] at hplace
      rcases hplace with hplace | hplace | hplace
      · exact hnew interface (by simp [hmem]) hplace
      · exact hapart _ hplace _ hmemPlace rfl
      · exact hlast _ (List.mem_append_right _ hmemPlace) _ hplace rfl
    have hmanagement : withAdded (present ++ (data ++ [management]) ++ further) [management] =
        present ++ (data ++ [management]) ++ further :=
      withAdded_of_present fun interface hmem =>
        List.mem_map.2 ⟨interface, by simp [List.mem_singleton.1 hmem], rfl⟩
    rw [withAdded_append, withAdded_append, hdata, hfurther, hmanagement]

/-- What an allocation comes to when nothing goes wrong. -/
theorem run_allocate {request : EndpointRequest} {s : Systems} {course : Course} {interfaces : List Interface}
    (hcourse : ∀ turn, (course turn).Faultless) (hnone : s.controller.failingInterfaces = [])
    (hplan : request.plan engine nodes (.ofPeerGroups s.controller.peerGroups) = .ok interfaces) :
    (s.run course (allocate engine request nodes)).1 = .ok interfaces ∧
      (s.run course (allocate engine request nodes)).2.controller.interfaces =
        withAdded s.controller.interfaces interfaces ∧
      s.controller.SameSetup (s.run course (allocate engine request nodes)).2.controller := by
  obtain ⟨⟨hresult, hadded⟩, hsetup⟩ :=
    run_of_ensures (ensures_setup (ensures_allocate_added hnone hplan)) course hcourse
  exact ⟨hresult, hadded, hsetup⟩

/-- **More addresses add interfaces and change none.**  The plan for more addresses begins with the data
    interfaces of the plan for the first ones and ends with the same management interface, and data interfaces
    with different indexes have different names.  If all planned names are different and the machine has no
    interface with one of them, an allocation for the first addresses and then one for all of them leave every
    interface of the first as it is, and the second adds those for the further addresses. -/
theorem allocate_grows (engine : Settings.Engine) (hnodes : nodes ≠ []) (uuid : String) (ip : Address)
    (xs ys : List Address) {s : Systems} {first second : Course} (hfirst : ∀ turn, (first turn).Faultless)
    (hsecond : ∀ turn, (second turn).Faultless) (hnone : s.controller.failingInterfaces = []) :
    (∀ mode, ∃ data further management, Grown engine nodes uuid ip mode xs ys data further management) ∧
    (∀ i j, i ≠ j → engine.dataInterfaceName i ≠ engine.dataInterfaceName j) ∧
    ∃ data further management,
      Grown engine nodes uuid ip (.ofPeerGroups s.controller.peerGroups) xs ys data further management ∧
      (((data ++ further ++ [management]).map (·.name)).Nodup →
        (∀ interface ∈ s.controller.interfaces, interface.svmUuid = uuid →
          interface.name ∉ (data ++ further ++ [management]).map (·.name)) →
        let once := s.run first (allocate engine ⟨uuid, xs, ip⟩ nodes)
        let twice := once.2.run second (allocate engine ⟨uuid, xs ++ ys, ip⟩ nodes)
        once.1 = .ok (data ++ [management]) ∧
          once.2.controller.interfaces = s.controller.interfaces ++ (data ++ [management]) ∧
          twice.1 = .ok (data ++ further ++ [management]) ∧
          twice.2.controller.interfaces = once.2.controller.interfaces ++ further) := by
  refine ⟨fun mode => exists_grown engine hnodes uuid ip mode xs ys, fun i j hne heq =>
    hne (dataInterfaceName_injective engine heq), ?_⟩
  obtain ⟨data, further, management, hgrown⟩ :=
    exists_grown engine hnodes uuid ip (.ofPeerGroups s.controller.peerGroups) xs ys
  refine ⟨data, further, management, hgrown, fun hnodup hfree => ?_⟩
  intro once twice
  obtain ⟨honce, htwice⟩ := withAdded_grown hgrown hnodup hfree
  obtain ⟨hresult, hinterfaces, hsetup⟩ := run_allocate hfirst hnone hgrown.before
  -- the second allocation finds the same peer groups, so it plans with the same addressing
  have hplan : (EndpointRequest.mk uuid (xs ++ ys) ip).plan engine nodes
      (.ofPeerGroups once.2.controller.peerGroups) = .ok (data ++ further ++ [management]) := by
    rw [hsetup.peerGroups]
    exact hgrown.after
  obtain ⟨hresult', hinterfaces', -⟩ :=
    run_allocate hsecond (hsetup.failingInterfaces.trans hnone) hplan
  have hbetween : once.2.controller.interfaces = s.controller.interfaces ++ (data ++ [management]) :=
    hinterfaces.trans honce
  refine ⟨hresult, hbetween, hresult', hinterfaces'.trans ?_⟩
  rw [hbetween]
  exact htwice

/-- Systems in which a neighbour has a data interface. -/
def withNeighbour : Systems :=
  ⟨{ MemoryController.initial with
      interfaces := [endpoint "data-lif-0" (.v4 ⟨10, 0, 1, 1⟩) .data "svm-uuid-2" ⟨"node-1", "n1"⟩ .subnet] },
    .empty, 0⟩

theorem allocate_grows_by_two :
    someNodes ≠ [] ∧ (∀ turn, (faultlessCourse turn).Faultless) ∧
      withNeighbour.controller.failingInterfaces = [] ∧
      ∃ before : List Interface,
        (withNeighbour.run faultlessCourse (allocate default newEndpoints someNodes)).2.controller.interfaces =
          before ∧
        before.map (·.name) = ["data-lif-0", "data-lif-0", "mgmt-lif"] ∧
        ((withNeighbour.run faultlessCourse (allocate default newEndpoints someNodes)).2.run faultlessCourse
          (allocate default ⟨"svm-uuid-1", [.v4 ⟨10, 0, 0, 1⟩] ++ [.v4 ⟨10, 0, 0, 2⟩, .v4 ⟨10, 0, 0, 3⟩],
            .v4 ⟨10, 0, 0, 9⟩⟩ someNodes)).2.controller.interfaces =
          before ++
            [endpoint "data-lif-1" (.v4 ⟨10, 0, 0, 2⟩) .data "svm-uuid-1" ⟨"node-2", "n2"⟩ .subnet,
              endpoint "data-lif-2" (.v4 ⟨10, 0, 0, 3⟩) .data "svm-uuid-1" ⟨"node-1", "n1"⟩ .subnet] := by
  have hnodes : someNodes ≠ [] := by simp [someNodes]
  have hcalm (turn : Nat) : (faultlessCourse turn).Faultless := rfl
  obtain ⟨-, -, data, further, management, hgrown, hgrows⟩ :=
    allocate_grows default hnodes "svm-uuid-1" (.v4 ⟨10, 0, 0, 9⟩) [.v4 ⟨10, 0, 0, 1⟩]
      [.v4 ⟨10, 0, 0, 2⟩, .v4 ⟨10, 0, 0, 3⟩] (s := withNeighbour) hcalm hcalm rfl
  have hplan := Except.ok.inj hgrown.after
  have hnodup : ((data ++ further ++ [management]).map (·.name)).Nodup := by
    rw [← hplan]
    decide
  have hfree : ∀ interface ∈ withNeighbour.controller.interfaces, interface.svmUuid = "svm-uuid-1" →
      interface.name ∉ (data ++ further ++ [management]).map (·.name) := by
    intro interface hmem howner
    obtain rfl := List.mem_singleton.1 hmem
    exact absurd howner (by decide)
  obtain ⟨-, -, -, htwice⟩ := hgrows hnodup hfree
  have hfurther : further = (data ++ further ++ [management]).dropLast.drop data.length := by simp
  rw [← hplan, hgrown.length_data] at hfurther
  exact ⟨hnodes, hcalm, rfl, _, rfl, by decide, htwice.trans (congrArg _ hfurther)⟩

end Provision

end TenantStorage
