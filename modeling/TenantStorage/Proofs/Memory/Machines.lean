import TenantStorage.Proofs.Memory.Effects

namespace TenantStorage.MemoryController

/-!
# The machines of a controller and their interfaces

Machines are kept by name, and no call takes one away or gives it another identifier.  Interfaces are only
added.

* `uuidOf` — the identifier of the machine with a name; `Becomes.uuidOf` — it stays.
* `Becomes.machine`, `Becomes.interfaces_of` — which machines and interfaces a call leaves alone.
* `Built` — the controllers that there can be; `Built.named` — their machines stand under their names.
* `machineUuid` — the identifier that a machine has or will have; `Becomes.machineUuid` — it stays, too.
* `UuidsDistinct` — no two machines have the same identifier; `svm_of_find?` — then a look finds the right one.
* `Due` — after how many looks a new machine is ready; `isReady_advance` — then it is.
* `createSvm_of_none`, `createInterface_cases` — when something new is accepted.
* `Established` — an interface that is there to stay; `Established.createInterface` — it is not created again.
-/

variable {c c' : MemoryController} {call : ControllerCall} {name uuid : String}

/-- The identifier of the machine with a name. -/
def uuidOf (name : String) (c : MemoryController) : Option String :=
  (c.svmByName name).bind (·.uuid)

theorem uuidOf_of_find? {machine : Machine} (h : c.machines.find? name = some machine) :
    uuidOf name c = machine.svm.uuid := by
  rw [uuidOf, svmByName, h]
  rfl

theorem find?_of_uuidOf (h : uuidOf name c = some uuid) :
    ∃ machine, c.machines.find? name = some machine ∧ machine.svm.uuid = some uuid := by
  cases hmachine : c.machines.find? name with
  | none =>
    rw [uuidOf, svmByName, hmachine] at h
    cases h
  | some machine => exact ⟨machine, rfl, (uuidOf_of_find? hmachine).symm.trans h⟩

/-- The identifier of the next machine. -/
def nextUuid (c : MemoryController) : String := "svm-uuid-" ++ (c.assigned + 1).repr

/-- A look leaves the identifier as it is. -/
theorem advance_uuid (c : MemoryController) (machine : Machine) :
    (c.advance machine).svm.uuid = machine.svm.uuid := rfl

/-- A call that orders no machine leaves all identifiers alone. -/
theorem Becomes.uuidOf_eq (h : c.Becomes call c') (hcall : ∀ order, call ≠ .createSvm order)
    (name : String) : uuidOf name c' = uuidOf name c := by
  cases h with
  | same _ | connected _ | opened _ | rotated _ => rfl
  | @ordered order _ => exact absurd rfl (hcall order)
  | @looked _ _ _ hupdate =>
    obtain ⟨key, old, hold, -, rfl, hnew, hothers⟩ := SortedMap.of_updateFirst?_eq_some hupdate
    -- only the machine that was looked at has changed, and a look keeps its identifier
    by_cases hkey : name = key
    · subst hkey
      rw [uuidOf_of_find? hnew, uuidOf_of_find? hold, advance_uuid]
    · rw [uuidOf, uuidOf, svmByName, svmByName, hothers name hkey]

/-- An accepted order gives the next identifier to a machine with a new name, and leaves the others alone. -/
theorem Becomes.uuidOf_ordered {order : Svm.Order} (h : c.Becomes (.createSvm order) c') :
    (∀ name, uuidOf name c' = uuidOf name c) ∧ c'.assigned = c.assigned ∨
      uuidOf order.name c = none ∧ uuidOf order.name c' = some (nextUuid c) ∧
        ∀ name, name ≠ order.name → uuidOf name c' = uuidOf name c := by
  cases h with
  | same _ => exact .inl ⟨fun _ => rfl, rfl⟩
  | ordered hfree =>
    refine .inr ⟨?_, ?_, fun name hname => ?_⟩
    · rw [uuidOf, svmByName, hfree]
      rfl
    · rw [uuidOf_of_find? (SortedMap.find?_insert_self _ _ _)]
      rfl
    · rw [uuidOf, uuidOf, svmByName, svmByName, SortedMap.find?_insert_of_ne _ hname]

/-- The identifier of a machine stays. -/
theorem Becomes.uuidOf (h : c.Becomes call c') (huuid : uuidOf name c = some uuid) :
    uuidOf name c' = some uuid := by
  by_cases hcall : ∃ order, call = .createSvm order
  · obtain ⟨order, rfl⟩ := hcall
    rcases h.uuidOf_ordered with ⟨hsame, -⟩ | ⟨hfree, -, hothers⟩
    · rw [hsame, huuid]
    -- a machine with the name would have stood in the way of the order
    · have hne : name ≠ order.name := by
        rintro rfl
        cases hfree.symm.trans huuid
      rw [hothers name hne, huuid]
  · rw [h.uuidOf_eq (fun order horder => hcall ⟨order, horder⟩), huuid]

/-- A call leaves a machine alone that it neither orders nor looks at. -/
theorem Becomes.machine (h : c.Becomes call c') (horder : ∀ order, call = .createSvm order → order.name ≠ name)
    (hlook : ∀ uuid, call = .svm uuid → MemoryController.uuidOf name c ≠ some uuid) :
    c'.machines.find? name = c.machines.find? name := by
  cases h with
  | same _ | connected _ | opened _ | rotated _ => rfl
  | @ordered order _ =>
    have hother : name ≠ order.name := (horder order rfl).symm
    exact SortedMap.find?_insert_of_ne _ hother _
  | @looked uuid _ _ hupdate =>
    obtain ⟨key, old, hold, htest, rfl, -, hothers⟩ := SortedMap.of_updateFirst?_eq_some hupdate
    have howner : MemoryController.uuidOf key c = some uuid := by
      rw [uuidOf_of_find? hold]
      simpa using htest
    have hother : name ≠ key := by
      rintro rfl
      exact hlook uuid rfl howner
    exact hothers name hother

/-- The identifier that the machine with a name has, or will have when it is ordered next. -/
def machineUuid (name : String) (c : MemoryController) : String := (uuidOf name c).getD (nextUuid c)

/-- A call that orders no other machine leaves the identifier as it is, or will be. -/
theorem Becomes.machineUuid (h : c.Becomes call c')
    (hcall : ∀ order, call = .createSvm order → order.name = name) :
    machineUuid name c' = machineUuid name c := by
  rw [MemoryController.machineUuid, MemoryController.machineUuid]
  by_cases horder : ∃ order, call = .createSvm order
  · obtain ⟨order, rfl⟩ := horder
    -- an accepted order gives the machine the identifier that was promised to it
    obtain rfl := hcall order rfl
    rcases h.uuidOf_ordered with ⟨hsame, hassigned⟩ | ⟨hfree, hnext, -⟩
    · rw [hsame, nextUuid, nextUuid, hassigned]
    · rw [hfree, hnext]
      rfl
  · have hnone (order : Svm.Order) : call ≠ .createSvm order := fun h => horder ⟨order, h⟩
    have hassigned : c'.assigned = c.assigned := by
      cases h with
      | @ordered order _ => exact absurd rfl (hnone order)
      | same _ | looked _ | connected _ | opened _ | rotated _ => rfl
    rw [h.uuidOf_eq hnone, nextUuid, nextUuid, hassigned]

/-- No machine with another name has the identifier. -/
def Unshared (name uuid : String) (c : MemoryController) : Prop :=
  ∀ other, uuidOf other c = some uuid → other = name

/-- No two machines have the same identifier. -/
def UuidsDistinct (c : MemoryController) : Prop :=
  ∀ name uuid, uuidOf name c = some uuid → Unshared name uuid c

/-- Identifiers that are distinct were so before. -/
theorem Becomes.uuidsDistinct (h : c.Becomes call c') (hdistinct : UuidsDistinct c') :
    UuidsDistinct c :=
  fun name uuid hname other hother => hdistinct name uuid (h.uuidOf hname) other (h.uuidOf hother)

/-- Identifiers are distinct if no two listed machines have the same. -/
theorem uuidsDistinct_iff : UuidsDistinct c ↔ ∀ a ∈ c.machines.entries, ∀ b ∈ c.machines.entries,
    a.2.svm.uuid.isSome = true → a.2.svm.uuid = b.2.svm.uuid → a.1 = b.1 := by
  constructor
  · intro hdistinct a ha b hb hsome hsame
    obtain ⟨uuid, huuid⟩ := Option.isSome_iff_exists.1 hsome
    have hfirst := uuidOf_of_find? (SortedMap.find?_eq_some_iff.2 ha)
    have hsecond := uuidOf_of_find? (SortedMap.find?_eq_some_iff.2 hb)
    exact (hdistinct a.1 uuid (hfirst.trans huuid) b.1 (hsecond.trans (hsame.symm.trans huuid))).symm
  · intro hlisted name uuid hname other hother
    obtain ⟨machine, hmachine, huuid⟩ := find?_of_uuidOf hname
    obtain ⟨machine', hmachine', huuid'⟩ := find?_of_uuidOf hother
    exact hlisted (other, machine') (SortedMap.find?_eq_some_iff.1 hmachine') (name, machine)
      (SortedMap.find?_eq_some_iff.1 hmachine) (by simp [huuid']) (huuid'.trans huuid.symm)

instance (c : MemoryController) : Decidable (UuidsDistinct c) :=
  decidable_of_iff _ uuidsDistinct_iff.symm

/-- A look by the identifier of one machine only shows this machine, as it is after the look. -/
theorem svm_of_find? {machine : Machine} (hmachine : c.machines.find? name = some machine)
    (huuid : machine.svm.uuid = some uuid) (hunshared : Unshared name uuid c) :
    (c.perform (.svm uuid)).1 = .ok (c.advance machine).svm ∧
      (c.perform (.svm uuid)).2.machines.find? name = some (c.advance machine) := by
  simp only [perform, answer]
  split
  · rename_i hnone
    have hnot := SortedMap.updateFirst?_eq_none_iff.1 hnone name machine hmachine
    simp [huuid] at hnot
  · rename_i found machines hupdate
    obtain ⟨key, old, hold, htest, rfl, hnew, -⟩ := SortedMap.of_updateFirst?_eq_some hupdate
    -- the look finds the first machine with the identifier, and no other has it
    obtain rfl : key = name := hunshared key (by rw [uuidOf_of_find? hold]; simpa using htest)
    cases hold.symm.trans hmachine
    exact ⟨rfl, hnew⟩

/-- A new machine is ready after so many looks. -/
def Due (c : MemoryController) (looks : Nat) : Prop :=
  reached looks c.runningAfter = true ∧ reached looks (c.nvmeAfter.or c.runningAfter) = true

/-- After a look at which it is due a machine with an identifier is ready. -/
theorem isReady_advance {machine : Machine} (huuid : machine.svm.uuid.isSome = true)
    (hdue : Due c (machine.lookups + 1)) : (c.advance machine).svm.isReady = true := by
  obtain ⟨hrunning, hnvme⟩ := hdue
  simp [Svm.isReady, advance, huuid, hrunning, hnvme]

/-- When a new machine is ready depends on the setup only. -/
theorem SameSetup.due (h : c.SameSetup c') {looks : Nat} (hdue : Due c looks) : Due c' looks := by
  rw [Due, h.runningAfter, h.nvmeAfter]
  exact hdue

/-- The machine that a look by identifier shows has this identifier. -/
theorem uuid_of_svm {svm : Svm} (h : (c.perform (.svm uuid)).1 = .ok svm) : svm.uuid = some uuid := by
  simp only [perform, answer] at h
  split at h
  · cases h
  · rename_i machine machines hupdate
    -- the machine that is shown passed the test for the identifier before the look
    obtain ⟨_, old, _, htest, rfl, -, -⟩ := SortedMap.of_updateFirst?_eq_some hupdate
    cases h
    exact (advance_uuid _ old).trans (by simpa using htest)

/-- A machine is ordered where there is none with its name. -/
theorem createSvm_of_none {order : Svm.Order} (h : c.machines.find? order.name = none) :
    (c.perform (.createSvm order)).1 = .ok () ∧
      (c.perform (.createSvm order)).2.machines =
        c.machines.insert order.name (orderedMachine order (c.assigned + 1)) := by
  have hfree : c.machines.contains order.name = false := by
    rw [SortedMap.contains_eq_isSome, h]
    rfl
  simp [perform, answer, hfree]

/-! ### Interfaces -/

/-- No call takes an interface away. -/
theorem Becomes.interfaces_kept (h : c.Becomes call c') : c.interfaces <+: c'.interfaces := by
  cases h with
  | connected _ => exact List.prefix_append _ _
  | same _ | looked _ | ordered _ | opened _ | rotated _ => exact List.prefix_refl _

/-- A call leaves all interfaces alone but those of a machine for which it creates one. -/
theorem Becomes.interfaces_of (h : c.Becomes call c') (keep : Interface → Bool)
    (hcall : ∀ interface, call = .createInterface interface → keep interface = false) :
    c'.interfaces.filter keep = c.interfaces.filter keep := by
  cases h with
  | @connected interface _ => simp [hcall interface rfl]
  | same _ | looked _ | ordered _ | opened _ | rotated _ => rfl

/-- A machine keeps its interfaces. -/
theorem hasInterface_mono {interface : Interface} (h : c.hasInterface interface = true)
    (hkept : c.interfaces <+: c'.interfaces) : c'.hasInterface interface = true := by
  rw [hasInterface, List.any_eq_true] at h ⊢
  obtain ⟨i, hi, hsame⟩ := h
  exact ⟨i, hkept.subset hi, hsame⟩

/-- Unless it is one of those that cannot be created, an interface is created or exists already, and it is
    there afterwards. -/
theorem createInterface_cases (c : MemoryController) (interface : Interface)
    (h : c.failingInterfaces.contains interface.name = false) :
    ((c.perform (.createInterface interface)).1 = .ok () ∨
        ∃ failure, (c.perform (.createInterface interface)).1 = .error failure ∧
          failure.isAlreadyExists = true) ∧
      (c.perform (.createInterface interface)).2.hasInterface interface = true := by
  simp only [perform, answer, h]
  by_cases hthere : c.hasInterface interface = true
  · have hthere' : hasInterface { c with tally := c.tally.add (.createInterface interface) } interface =
      true := hthere
    simp only [hthere', if_true, Bool.false_eq_true, if_false]
    exact ⟨.inr ⟨_, rfl, rfl⟩, trivial⟩
  · have hthere' : ¬ hasInterface { c with tally := c.tally.add (.createInterface interface) } interface =
      true := hthere
    simp only [hthere', Bool.false_eq_true, if_false]
    exact ⟨.inl trivial, by simp [hasInterface]⟩

/-- An interface that cannot be created is refused, and not because it exists. -/
theorem createInterface_of_failing {interface : Interface}
    (hfailing : c.failingInterfaces.contains interface.name = true) :
    ∃ failure, (c.perform (.createInterface interface)).1 = .error failure ∧
      failure.isAlreadyExists = false := by
  simp only [perform, answer, hfailing, if_true]
  exact ⟨_, rfl, rfl⟩

/-- An interface is there, and is not one that cannot be created. -/
structure Established (interface : Interface) (c : MemoryController) : Prop where
  there : c.hasInterface interface = true
  allowed : c.failingInterfaces.contains interface.name = false

/-- No call undoes this. -/
theorem Becomes.established {interface : Interface} (h : c.Becomes call c') (hc : Established interface c) :
    Established interface c' where
  there := hasInterface_mono hc.there h.interfaces_kept
  allowed := by
    rw [h.sameSetup.failingInterfaces]
    exact hc.allowed

/-- An interface that is there is refused as such, and nothing is written. -/
theorem Established.createInterface {interface : Interface} (h : Established interface c) :
    (c.perform (.createInterface interface)).1 = .error (.alreadyExists "NetworkInterface" interface.name) ∧
      (c.perform (.createInterface interface)).2 =
        { c with tally := c.tally.add (.createInterface interface) } := by
  have hthere : hasInterface { c with tally := c.tally.add (.createInterface interface) } interface = true :=
    h.there
  simp only [perform, answer, h.allowed, hthere, if_true, Bool.false_eq_true, if_false]
  exact ⟨trivial, trivial⟩

/-- An interface that was created, or that is refused because it exists, is there. -/
theorem established_of_createInterface {interface : Interface}
    (h : ∀ failure, (c.perform (.createInterface interface)).1 = .error failure →
      failure.isAlreadyExists = true) :
    Established interface (c.perform (.createInterface interface)).2 := by
  have hallowed : c.failingInterfaces.contains interface.name = false := by
    cases hfailing : c.failingInterfaces.contains interface.name with
    | false => rfl
    | true =>
      obtain ⟨failure, hanswer, hexists⟩ := createInterface_of_failing hfailing
      cases (h failure hanswer).symm.trans hexists
  exact {
    there := (createInterface_cases c interface hallowed).2
    allowed := by
      rw [(becomes_perform _ c).sameSetup.failingInterfaces]
      exact hallowed }

/-! ### The controllers that there can be -/

/-- A controller that was prepared and then called. -/
inductive Built : MemoryController → Prop where
  | initial : Built .initial
  | nodes {c : MemoryController} (h : Built c) (nodes : List Node) : Built (c.withNodes nodes)
  | aggregates {c : MemoryController} (h : Built c) (names : List String) :
      Built (c.withAggregates names)
  | peerGroups {c : MemoryController} (h : Built c) (count : Nat) : Built (c.withPeerGroups count)
  | runningSvm {c : MemoryController} (h : Built c) (name uuid : String) :
      Built (c.withRunningSvm name uuid)
  | account {c : MemoryController} (h : Built c) (ownerUuid username password : String) :
      Built (c.withAccount ownerUuid username password)
  | readyAfter {c : MemoryController} (h : Built c) (lookups : Nat) : Built (c.readyAfter lookups)
  | nvmeAfter {c : MemoryController} (h : Built c) (lookups : Nat) : Built (c.withNvmeAfter lookups)
  | neverReady {c : MemoryController} (h : Built c) : Built c.neverReady
  | failInterface {c : MemoryController} (h : Built c) (name : String) : Built (c.failInterface name)
  | called {c : MemoryController} (h : Built c) (call : ControllerCall) : Built (c.perform call).2

/-- Every machine stands under its name and has an identifier. -/
def Named (c : MemoryController) : Prop :=
  ∀ name machine, c.machines.find? name = some machine →
    machine.svm.name = name ∧ machine.svm.uuid.isSome = true

theorem Named.insert (h : Named c) {machine : Machine}
    (hmachine : machine.svm.name = name ∧ machine.svm.uuid.isSome = true) :
    Named { c with machines := c.machines.insert name machine } := by
  intro other found hfound
  by_cases hname : other = name
  · subst hname
    cases (SortedMap.find?_insert_self _ _ _).symm.trans hfound
    exact hmachine
  · exact h other found ((SortedMap.find?_insert_of_ne _ hname _).symm.trans hfound)

theorem Becomes.named (h : c.Becomes call c') (hnamed : Named c) : Named c' := by
  intro name machine hmachine
  cases h with
  | same _ | connected _ | opened _ | rotated _ => exact hnamed name machine hmachine
  | @ordered order _ =>
    have hordered : Named { c with
        machines := c.machines.insert order.name (orderedMachine order (c.assigned + 1)) } :=
      hnamed.insert ⟨rfl, rfl⟩
    exact hordered name machine hmachine
  | @looked uuid found machines hupdate =>
    obtain ⟨key, old, hold, -, rfl, hnew, hothers⟩ := SortedMap.of_updateFirst?_eq_some hupdate
    by_cases hkey : name = key
    · subst hkey
      cases hnew.symm.trans hmachine
      exact hnamed name old hold
    · exact hnamed name machine ((hothers name hkey).symm.trans hmachine)

/-- In every controller that there can be the machines stand under their names and have identifiers. -/
theorem Built.named (h : Built c) : Named c := by
  induction h with
  | initial => rintro name machine ⟨⟩
  | runningSvm _ name uuid ih => exact ih.insert ⟨rfl, rfl⟩
  | called _ call ih => exact (becomes_perform call _).named ih
  | nodes _ _ ih | aggregates _ _ ih | peerGroups _ _ ih | account _ _ _ _ ih | readyAfter _ _ ih
  | nvmeAfter _ _ ih | neverReady _ ih | failInterface _ _ ih => exact ih

end TenantStorage.MemoryController
