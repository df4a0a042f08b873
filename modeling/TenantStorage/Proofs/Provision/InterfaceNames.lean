import TenantStorage.Proofs.Memory.Lookups
import TenantStorage.Proofs.Provision.Discipline
import TenantStorage.Proofs.Provision.Steps

namespace TenantStorage

open Systems

/-!
# The names of a machine's interfaces

A controller takes a second interface with the same name on the same machine for the first one, and the engine
takes this for success.  So every planned interface is created only if no two of them share a name.  The names
of data interfaces are numbered, and the name of the management interface may be any text, also one of these.

* `Interface.place`, `withAdded` — what a controller makes of interfaces that are created in order.
* `dataInterfaceName_injective`, `nodup_plannedNames_iff` — when planned names are distinct.
* `ensures_createInterfaces_added` — what is there afterwards when nothing goes wrong.
* `allocate_creates_all_iff` — everything that is planned is created just when the names are distinct.
-/

/-! ### Interfaces in order -/

/-- What tells an interface from others: its name and its machine. -/
def Interface.place (interface : Interface) : String × String := (interface.name, interface.svmUuid)

/-- The interfaces when one more is created. -/
def addInterface (present : List Interface) (interface : Interface) : List Interface :=
  if interface.place ∈ present.map (·.place) then present else present ++ [interface]

/-- The interfaces when others are created in order. -/
def withAdded (present interfaces : List Interface) : List Interface := interfaces.foldl addInterface present

theorem withAdded_append (present first second : List Interface) :
    withAdded present (first ++ second) = withAdded (withAdded present first) second :=
  List.foldl_append

/-- Interfaces that are all new and differ from each other are all there afterwards. -/
theorem withAdded_of_new {present interfaces : List Interface} (hnodup : (interfaces.map (·.place)).Nodup)
    (hnew : ∀ interface ∈ interfaces, interface.place ∉ present.map (·.place)) :
    withAdded present interfaces = present ++ interfaces := by
  induction interfaces generalizing present with
  | nil => rw [withAdded, List.foldl_nil, List.append_nil]
  | cons interface rest ih =>
    obtain ⟨hfirst, hrest⟩ := List.nodup_cons.1 hnodup
    obtain ⟨hnewFirst, hnewRest⟩ := List.forall_mem_cons.1 hnew
    have hstep : withAdded present (interface :: rest) = withAdded (present ++ [interface]) rest := by
      rw [withAdded, List.foldl_cons, addInterface, if_neg hnewFirst]
      rfl
    rw [hstep, ih hrest, List.append_assoc]
    · rfl
    · -- the others are also new beside the one that was just added
      intro other hother hplace
      rw [List.map_append, List.mem_append, List.map_singleton, List.mem_singleton] at hplace
      rcases hplace with hplace | hplace
      · exact hnewRest other hother hplace
      · exact hfirst (List.mem_map.2 ⟨other, hother, hplace⟩)

namespace MemoryController

theorem hasInterface_iff {c : MemoryController} {interface : Interface} :
    c.hasInterface interface = true ↔ interface.place ∈ c.interfaces.map (·.place) := by
  simp [hasInterface, Interface.place, List.any_eq_true]

/-- An interface that can be created is added. -/
theorem interfaces_createInterface {c : MemoryController} {interface : Interface}
    (h : c.failingInterfaces.contains interface.name = false) :
    (c.perform (.createInterface interface)).2.interfaces = addInterface c.interfaces interface := by
  simp only [perform, answer, h, Bool.false_eq_true, if_false]
  by_cases hthere : c.hasInterface interface = true
  · have hthere' : hasInterface { c with tally := c.tally.add (.createInterface interface) } interface =
      true := hthere
    rw [if_pos hthere', addInterface, if_pos (hasInterface_iff.1 hthere)]
  · have hthere' : ¬hasInterface { c with tally := c.tally.add (.createInterface interface) } interface =
      true := hthere
    rw [if_neg hthere', addInterface, if_neg fun hplace => hthere (hasInterface_iff.2 hplace)]

end MemoryController

namespace Provision

variable {engine : Settings.Engine} {request : EndpointRequest} {nodes : List Node} {s : Systems}

/-! ### Creation when nothing goes wrong -/

/-- When nothing goes wrong, creation succeeds and adds interfaces. -/
structure Added (interfaces : List Interface) (s : Systems) (result : Except Failure Unit) (s' : Systems) :
    Prop where
  ok : result = .ok ()
  interfaces : s'.controller.interfaces = withAdded s.controller.interfaces interfaces
  failing : s'.controller.failingInterfaces = []

theorem ensures_createInterface_added (interface : Interface) (hnone : s.controller.failingInterfaces = []) :
    Program.Ensures (conduct Turn.Faultless) Program.anyStep (Added [interface] s)
      (createInterface interface).run s := by
  unfold createInterface
  rw [ExceptT.run_mk, Program.ensures_bind]
  refine ensures_call fun turn hturn => ⟨trivial, ?_⟩
  rw [attend_of_faultless hturn]
  have hallowed : s.controller.failingInterfaces.contains interface.name = false := by
    rw [hnone]
    rfl
  have hadded := MemoryController.interfaces_createInterface hallowed
  have hsetup := (MemoryController.becomes_perform (.createInterface interface) s.controller).sameSetup
  have hfailing := hsetup.failingInterfaces.trans hnone
  rcases (MemoryController.createInterface_cases s.controller interface hallowed).1 with
    hok | ⟨failure, herror, hexists⟩
  · simp only [Systems.perform, hok, Program.ensures_bind]
    exact ensures_count ⟨trivial, rfl, hadded, hfailing⟩
  · simp only [Systems.perform, herror, hexists, if_true]
    exact ⟨rfl, hadded, hfailing⟩

theorem ensures_createInterfaces_added (interfaces : List Interface)
    (hnone : s.controller.failingInterfaces = []) :
    Program.Ensures (conduct Turn.Faultless) Program.anyStep (Added interfaces s)
      (createInterfaces interfaces).run s := by
  induction interfaces generalizing s with
  | nil => exact ⟨rfl, rfl, hnone⟩
  | cons interface rest ih =>
    unfold createInterfaces
    refine Program.Ensures.attempt _ (ensures_createInterface_added interface hnone) ?_ ?_
    · intro value s₁ hfirst
      refine (ih hfirst.failing).imp fun result s₂ hrest => ?_
      exact {
        ok := hrest.ok
        interfaces := by
          rw [hrest.interfaces, hfirst.interfaces]
          rfl
        failing := hrest.failing }
    · rintro failure s₁ ⟨⟨⟩⟩

theorem ensures_allocate_added (hnone : s.controller.failingInterfaces = []) {interfaces : List Interface}
    (hplan : request.plan engine nodes (.ofPeerGroups s.controller.peerGroups) = .ok interfaces) :
    Program.Ensures (conduct Turn.Faultless) Program.anyStep
      (fun result s' => result = .ok interfaces ∧
        s'.controller.interfaces = withAdded s.controller.interfaces interfaces)
      (allocate engine request nodes).run s := by
  unfold allocate probeAddressing
  refine Program.Ensures.attempt (fun result s₁ => Alike s s₁ ∧
    result = .ok (.ofPeerGroups s.controller.peerGroups)) ?_ ?_ ?_
  · refine Program.Ensures.attempt _ ((ensures_read ⟨rfl, rfl⟩ rfl).mono
      (fun _ _ _ _ _ => trivial) fun _ _ => id) ?_ ?_
    · rintro count s₁ ⟨halike, hcount, -⟩
      rw [hcount count rfl]
      exact ⟨halike, rfl⟩
    · rintro failure s₁ ⟨-, -, hanswered⟩
      cases hanswered fun _ hturn => hturn
  · rintro mode s₁ ⟨halike, hmode⟩
    obtain rfl := Except.ok.inj hmode
    refine Program.Ensures.check ?_ fun failure hfailed => by cases hplan.symm.trans hfailed
    intro planned hplanned
    obtain rfl := Except.ok.inj (hplan.symm.trans hplanned)
    have hnone₁ : s₁.controller.failingInterfaces = [] := halike.setup.failingInterfaces.trans hnone
    refine Program.Ensures.attempt _ (ensures_createInterfaces_added interfaces hnone₁) ?_ ?_
    · intro value s₂ hadded
      exact ⟨rfl, by rw [hadded.interfaces, halike.interfaces]⟩
    · rintro failure s₂ ⟨⟨⟩⟩
  · rintro failure s₁ ⟨-, ⟨⟩⟩

/-! ### The planned names -/

theorem dataInterfaceName_injective (engine : Settings.Engine) :
    Function.Injective engine.dataInterfaceName :=
  MemoryController.append_repr_injective engine.dataInterfaceTag

/-- The name of the management interface is none of the first data interfaces. -/
def ManagementApart (engine : Settings.Engine) (addresses : Nat) : Prop :=
  ∀ index < addresses, engine.managementInterfaceTag ≠ engine.dataInterfaceName index

theorem nodup_dataNames (engine : Settings.Engine) (addresses : Nat) :
    ((List.range addresses).map engine.dataInterfaceName).Nodup :=
  List.nodup_range.map (dataInterfaceName_injective engine)

theorem nodup_plannedNames_iff (engine : Settings.Engine) (addresses : Nat) :
    (plannedNames engine addresses).Nodup ↔ ManagementApart engine addresses := by
  rw [plannedNames, List.nodup_append]
  constructor
  · rintro ⟨-, -, hapart⟩ index hindex heq
    exact hapart _ (List.mem_map.2 ⟨index, List.mem_range.2 hindex, rfl⟩) _ (List.mem_singleton.2 rfl)
      heq.symm
  · intro hapart
    refine ⟨nodup_dataNames engine addresses, List.nodup_singleton _, ?_⟩
    intro name hname tag htag heq
    obtain ⟨index, hindex, rfl⟩ := List.mem_map.1 hname
    obtain rfl := List.mem_singleton.1 htag
    exact hapart index (List.mem_range.1 hindex) heq.symm

/-- Interfaces with different names are at different places. -/
theorem nodup_places {interfaces : List Interface} (hnames : (interfaces.map (·.name)).Nodup) :
    (interfaces.map (·.place)).Nodup := by
  have hfst : interfaces.map (·.name) = (interfaces.map (·.place)).map (·.1) := by
    rw [List.map_map]
    rfl
  rw [hfst] at hnames
  exact hnames.of_map _

/-- A machine that has no interface has none at the place of one of its own. -/
theorem place_not_mem {uuid : String} {present : List Interface} {interface : Interface}
    (hfree : ∀ other ∈ present, other.svmUuid ≠ uuid) (howner : interface.svmUuid = uuid) :
    interface.place ∉ present.map (·.place) := by
  intro hmem
  obtain ⟨other, hother, hplace⟩ := List.mem_map.1 hmem
  exact hfree other hother ((congrArg Prod.snd hplace).trans howner)

/-- The interfaces for data addresses all are new on a machine without interfaces. -/
theorem withAdded_dataEndpoints {uuid : String} {mode : Addressing} {present : List Interface}
    (hfree : ∀ other ∈ present, other.svmUuid ≠ uuid) (ips : List Address) :
    withAdded present (dataEndpoints engine uuid nodes mode 0 ips) =
      present ++ dataEndpoints engine uuid nodes mode 0 ips := by
  obtain ⟨hnames, howner⟩ := names_dataEndpoints engine uuid nodes mode ips 0
  refine withAdded_of_new (nodup_places ?_) fun interface hmem =>
    place_not_mem hfree (howner interface hmem)
  rw [hnames, ← List.range_eq_range']
  exact nodup_dataNames engine ips.length

/-- The management interface finds its place taken just when its name is that of a data interface. -/
theorem management_place_iff {uuid : String} {mode : Addressing} {present : List Interface}
    (hfree : ∀ other ∈ present, other.svmUuid ≠ uuid) (ips : List Address) (ip : Address) (node : Node) :
    (endpoint engine.managementInterfaceTag ip .management uuid node mode).place ∈
        (present ++ dataEndpoints engine uuid nodes mode 0 ips).map (·.place) ↔
      ¬ManagementApart engine ips.length := by
  obtain ⟨hnames, howner⟩ := names_dataEndpoints engine uuid nodes mode ips 0
  rw [← List.range_eq_range'] at hnames
  rw [List.map_append, List.mem_append, or_iff_right (place_not_mem hfree rfl), ManagementApart]
  simp only [not_forall, ne_eq, not_not]
  constructor
  · intro hmem
    obtain ⟨data, hdata, hplace⟩ := List.mem_map.1 hmem
    have hname : data.name ∈ (List.range ips.length).map engine.dataInterfaceName :=
      hnames ▸ List.mem_map.2 ⟨data, hdata, rfl⟩
    obtain ⟨index, hindex, hsame⟩ := List.mem_map.1 hname
    exact ⟨index, List.mem_range.1 hindex, (hsame.trans (congrArg Prod.fst hplace)).symm⟩
  · rintro ⟨index, hindex, hsame⟩
    have hname : engine.dataInterfaceName index ∈
        (dataEndpoints engine uuid nodes mode 0 ips).map (·.name) :=
      hnames ▸ List.mem_map.2 ⟨index, List.mem_range.2 hindex, rfl⟩
    obtain ⟨data, hdata, hdataName⟩ := List.mem_map.1 hname
    exact List.mem_map.2 ⟨data, hdata, Prod.ext (hdataName.trans hsame.symm) (howner data hdata)⟩

/-- What creation makes of a plan for a machine without interfaces. -/
theorem withAdded_plan {mode : Addressing} {present interfaces : List Interface}
    (hplan : request.plan engine nodes mode = .ok interfaces)
    (hfree : ∀ other ∈ present, other.svmUuid ≠ request.svmUuid) :
    (ManagementApart engine request.dataIps.length →
        withAdded present interfaces = present ++ interfaces) ∧
      (¬ManagementApart engine request.dataIps.length →
        withAdded present interfaces = present ++ interfaces.dropLast) := by
  cases nodes with
  | nil => cases hplan
  | cons first rest =>
    obtain rfl := Except.ok.inj hplan
    have hplace : (endpoint engine.managementInterfaceTag request.managementIp .management request.svmUuid
          first mode).place ∈ (present ++ dataEndpoints engine request.svmUuid (first :: rest) mode 0
            request.dataIps).map (·.place) ↔ ¬ManagementApart engine request.dataIps.length :=
      management_place_iff hfree request.dataIps request.managementIp first
    rw [withAdded_append, withAdded_dataEndpoints hfree, List.dropLast_concat]
    constructor
    · intro hapart
      rw [withAdded, List.foldl_cons, addInterface, if_neg fun h => hplace.1 h hapart,
        List.append_assoc]
      rfl
    · intro htaken
      rw [withAdded, List.foldl_cons, addInterface, if_pos (hplace.2 htaken)]
      rfl

/-- **Everything that is planned is created just when the management interface has a name of its own.**  On a
    controller on which the machine has no interface, and with which nothing goes wrong, the allocation says in
    any case that the whole plan is in place; it is so if no data interface has the name of the management
    interface, and otherwise the management interface is missing. -/
theorem allocate_creates_all_iff (engine : Settings.Engine) {request : EndpointRequest} {nodes : List Node}
    {course : Course} {s : Systems} (hnodes : nodes ≠ []) (hcourse : ∀ turn, (course turn).Faultless)
    (hfree : ∀ interface ∈ s.controller.interfaces, interface.svmUuid ≠ request.svmUuid)
    (hnone : s.controller.failingInterfaces = []) :
    (∀ mode, ∃ interfaces, request.plan engine nodes mode = .ok interfaces ∧
      ((interfaces.map (·.name)).Nodup ↔ ManagementApart engine request.dataIps.length)) ∧
    ∃ interfaces,
      request.plan engine nodes (.ofPeerGroups s.controller.peerGroups) = .ok interfaces ∧
      (s.run course (allocate engine request nodes)).1 = .ok interfaces ∧
      (ManagementApart engine request.dataIps.length →
        (s.run course (allocate engine request nodes)).2.controller.interfaces =
          s.controller.interfaces ++ interfaces) ∧
      (¬ManagementApart engine request.dataIps.length →
        (s.run course (allocate engine request nodes)).2.controller.interfaces =
          s.controller.interfaces ++ interfaces.dropLast) := by
  refine ⟨fun mode => ?_, ?_⟩
  · obtain ⟨interfaces, hplan⟩ := plan_of_nodes hnodes request mode
    refine ⟨interfaces, hplan, ?_⟩
    rw [(names_plan hplan).1]
    exact nodup_plannedNames_iff engine request.dataIps.length
  · obtain ⟨interfaces, hplan⟩ := plan_of_nodes hnodes request (.ofPeerGroups s.controller.peerGroups)
    obtain ⟨hresult, hinterfaces⟩ := run_of_ensures (ensures_allocate_added hnone hplan) course hcourse
    obtain ⟨hall, hmissing⟩ := withAdded_plan hplan hfree
    exact ⟨interfaces, hplan, hresult, fun hapart => hinterfaces.trans (hall hapart),
      fun htaken => hinterfaces.trans (hmissing htaken)⟩

/-- Addresses for a new machine. -/
def newEndpoints : EndpointRequest := ⟨"svm-uuid-1", [.v4 ⟨10, 0, 0, 1⟩], .v4 ⟨10, 0, 0, 9⟩⟩

/-- Nodes to place them on. -/
def someNodes : List Node := [⟨"node-1", "n1"⟩, ⟨"node-2", "n2"⟩]

/-- Nothing ever goes wrong. -/
def faultlessCourse : Course := fun _ => ⟨none, false, "password"⟩

/-- Systems in which there is nothing yet. -/
def nothingYet : Systems := ⟨.initial, .empty, 0⟩

theorem allocate_creates_newEndpoints :
    someNodes ≠ [] ∧ (∀ turn, (faultlessCourse turn).Faultless) ∧
      (∀ interface ∈ nothingYet.controller.interfaces, interface.svmUuid ≠ newEndpoints.svmUuid) ∧
      nothingYet.controller.failingInterfaces = [] ∧ ManagementApart default newEndpoints.dataIps.length ∧
      ∃ interfaces,
        (nothingYet.run faultlessCourse (allocate default newEndpoints someNodes)).1 = .ok interfaces ∧
        (nothingYet.run faultlessCourse (allocate default newEndpoints someNodes)).2.controller.interfaces =
          interfaces := by
  have hnodes : someNodes ≠ [] := by simp [someNodes]
  have hcalm (turn : Nat) : (faultlessCourse turn).Faultless := rfl
  have hfree : ∀ interface ∈ nothingYet.controller.interfaces,
      interface.svmUuid ≠ newEndpoints.svmUuid := by rintro _ ⟨⟩
  have hapart : ManagementApart default newEndpoints.dataIps.length := by
    unfold ManagementApart
    decide
  obtain ⟨-, interfaces, -, hresult, hall, -⟩ := allocate_creates_all_iff default hnodes hcalm hfree rfl
  exact ⟨hnodes, hcalm, hfree, rfl, hapart, interfaces, hresult, hall hapart⟩

/-- Settings under which the management interface is named like the first data interface. -/
def clashing : Settings.Engine := { (default : Settings.Engine) with managementInterfaceTag := "data-lif-0" }

theorem allocate_drops_management :
    clashing.validate = .ok () ∧ ∃ interfaces,
      (nothingYet.run faultlessCourse (allocate clashing newEndpoints someNodes)).1 = .ok interfaces ∧
      ¬(interfaces.map (·.name)).Nodup ∧ interfaces.length = 2 ∧
      (nothingYet.run faultlessCourse (allocate clashing newEndpoints someNodes)).2.controller.interfaces =
        interfaces.take 1 := by
  refine ⟨rfl, _, rfl, ?_, rfl, rfl⟩
  decide

end Provision

end TenantStorage
