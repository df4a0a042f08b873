import TenantStorage.Proofs.Memory.Machines

namespace TenantStorage

/-!
# Every controller that was prepared and then called

A controller is prepared once and then takes calls in any order.  Each call is one step, so what holds of the
prepared controller and is kept by a call holds after any history.

* `Preparation`, `prepared`, `after` — the histories.
* `ControllerCall.place`, `Counted` — the counters, and how far they can have come.
* `Machine.Persists`, `Kept` — what calls leave in place.
* `perform_of_error` — a call that fails changes nothing but its counter.
* `Consistent` — names are unique per kind, and every accepted order has its machine.
* `consistent_of_history` — all of it, after any history.
-/

/-- The place of the counter of a call in the list of counters. -/
def ControllerCall.place : ControllerCall → Fin 10
  | svmByName _ => 0
  | svm _ => 1
  | createSvm _ => 2
  | nodes => 3
  | aggregates => 4
  | createInterface _ => 5
  | peerGroups => 6
  | createAccount _ => 7
  | account _ _ => 8
  | setPassword _ _ _ => 9

/-- One more call adds one to its own counter, and leaves the other nine alone. -/
theorem CallTally.add_toList (tally : CallTally) (call : ControllerCall) :
    (tally.add call).toList = tally.toList.modify call.place (· + 1) := by
  cases call <;> rfl

namespace MemoryController

variable {c c' c'' : MemoryController} {call : ControllerCall} {bound : Nat}

/-! ### Histories -/

/-- One way to prepare a controller. -/
inductive Preparation where
  | nodes (nodes : List Node)
  | aggregates (names : List String)
  | peerGroups (count : Nat)
  /-- A machine that runs already. -/
  | runningSvm (name uuid : String)
  /-- An account that exists already. -/
  | account (ownerUuid username password : String)
  | readyAfter (lookups : Nat)
  | nvmeAfter (lookups : Nat)
  | neverReady
  | failInterface (name : String)
deriving DecidableEq, Repr

/-- The controller after one more preparation. -/
def prepare (c : MemoryController) : Preparation → MemoryController
  | .nodes nodes => c.withNodes nodes
  | .aggregates names => c.withAggregates names
  | .peerGroups count => c.withPeerGroups count
  | .runningSvm name uuid => c.withRunningSvm name uuid
  | .account ownerUuid username password => c.withAccount ownerUuid username password
  | .readyAfter lookups => c.readyAfter lookups
  | .nvmeAfter lookups => c.withNvmeAfter lookups
  | .neverReady => c.neverReady
  | .failInterface name => c.failInterface name

/-- A controller that was prepared step by step. -/
def prepared (preparations : List Preparation) : MemoryController := preparations.foldl prepare .initial

/-- A controller after calls, one after another. -/
def after (calls : List ControllerCall) (c : MemoryController) : MemoryController :=
  calls.foldl (fun c call => (c.perform call).2) c

/-- What every preparation keeps holds of a prepared controller. -/
theorem prepared_of_keeps {p : MemoryController → Prop} (hinitial : p .initial)
    (hkeeps : ∀ c preparation, p c → p (c.prepare preparation)) (preparations : List Preparation) :
    p (prepared preparations) :=
  List.foldlRecOn preparations prepare hinitial fun c hc preparation _ => hkeeps c preparation hc

/-- What every call keeps holds after any calls. -/
theorem after_of_keeps {p : MemoryController → Prop} (hkeeps : ∀ c call, p c → p (c.perform call).2)
    (calls : List ControllerCall) (hc : p c) : p (c.after calls) :=
  List.foldlRecOn calls _ hc fun c hc call _ => hkeeps c call hc

theorem Built.prepare (h : Built c) (preparation : Preparation) : Built (c.prepare preparation) := by
  cases preparation with
  | nodes nodes => exact h.nodes nodes
  | aggregates names => exact h.aggregates names
  | peerGroups count => exact h.peerGroups count
  | runningSvm name uuid => exact h.runningSvm name uuid
  | account ownerUuid username password => exact h.account ownerUuid username password
  | readyAfter lookups => exact h.readyAfter lookups
  | nvmeAfter lookups => exact h.nvmeAfter lookups
  | neverReady => exact h.neverReady
  | failInterface name => exact h.failInterface name

/-- A controller with a history is one of those that there can be. -/
theorem built_of_history (preparations : List Preparation) (calls : List ControllerCall) :
    Built ((prepared preparations).after calls) := by
  have hprepared : Built (prepared preparations) :=
    prepared_of_keeps .initial (fun _ preparation h => h.prepare preparation) preparations
  exact after_of_keeps (fun _ call h => h.called call) calls hprepared

/-! ### Counters -/

theorem Becomes.tally (h : c.Becomes call c') : c'.tally = c.tally.add call := by
  cases h <;> rfl

/-- No counter has come further than this, neither those of calls nor those of machines. -/
structure Counted (bound : Nat) (c : MemoryController) : Prop where
  tally : ∀ count ∈ c.tally.toList, count ≤ bound
  lookups : ∀ name machine, c.machines.find? name = some machine → machine.lookups ≤ bound
  assigned : c.assigned ≤ bound

/-- No call has been counted in a controller that was only prepared. -/
theorem counted_prepared (preparations : List Preparation) : Counted 0 (prepared preparations) := by
  refine prepared_of_keeps ⟨by decide, by rintro name machine ⟨⟩, Nat.le_refl _⟩ ?_ preparations
  intro c preparation h
  cases preparation with
  | runningSvm name uuid =>
    refine ⟨h.tally, fun other machine hmachine => ?_, h.assigned⟩
    by_cases hname : other = name
    · subst hname
      obtain rfl := Option.some.inj ((SortedMap.find?_insert_self _ _ _).symm.trans hmachine)
      exact Nat.le_refl _
    · exact h.lookups other machine ((SortedMap.find?_insert_of_ne _ hname _).symm.trans hmachine)
  | nodes _ | aggregates _ | peerGroups _ | account _ _ _ | readyAfter _ | nvmeAfter _ | neverReady
  | failInterface _ => exact ⟨h.tally, h.lookups, h.assigned⟩

/-- A counter that is raised by one is at most one higher. -/
theorem le_of_mem_modify {counts : List Nat} {place count : Nat} (h : ∀ n ∈ counts, n ≤ bound)
    (hcount : count ∈ counts.modify place (· + 1)) : count ≤ bound + 1 := by
  obtain ⟨i, hi, rfl⟩ := List.getElem_of_mem hcount
  rw [List.length_modify] at hi
  have hold : counts[i] ≤ bound := h _ (List.getElem_mem hi)
  rw [List.getElem_modify]
  split <;> omega

/-- One call brings no counter further than by one. -/
theorem Becomes.counted (h : c.Becomes call c') (hc : Counted bound c) : Counted (bound + 1) c' where
  tally count hcount := by
    rw [h.tally, CallTally.add_toList] at hcount
    exact le_of_mem_modify hc.tally hcount
  lookups name machine hmachine := by
    cases h with
    | same _ | connected _ | opened _ | rotated _ =>
      exact Nat.le_succ_of_le (hc.lookups name machine hmachine)
    | @ordered order _ =>
      by_cases hname : name = order.name
      · subst hname
        obtain rfl := Option.some.inj ((SortedMap.find?_insert_self _ _ _).symm.trans hmachine)
        exact Nat.zero_le _
      · rw [SortedMap.find?_insert_of_ne _ hname] at hmachine
        exact Nat.le_succ_of_le (hc.lookups name machine hmachine)
    | @looked uuid found machines hupdate =>
      obtain ⟨key, old, hold, -, rfl, hnew, hothers⟩ := SortedMap.of_updateFirst?_eq_some hupdate
      by_cases hname : name = key
      · subst hname
        obtain rfl := Option.some.inj (hnew.symm.trans hmachine)
        exact Nat.succ_le_succ (hc.lookups name old hold)
      · exact Nat.le_succ_of_le (hc.lookups name machine ((hothers name hname).symm.trans hmachine))
  assigned := by
    cases h with
    | ordered _ => exact Nat.succ_le_succ hc.assigned
    | same _ | looked _ | connected _ | opened _ | rotated _ => exact Nat.le_succ_of_le hc.assigned

/-- No counter has come further than the number of calls. -/
theorem counted_of_history (preparations : List Preparation) (calls : List ControllerCall) :
    Counted calls.length ((prepared preparations).after calls) := by
  -- generalised over where the counters stand before the calls
  have hcalls (c : MemoryController) (bound : Nat) (hc : Counted bound c) :
      Counted (bound + calls.length) (c.after calls) := by
    induction calls generalizing c bound with
    | nil => exact hc
    | cons call rest ih =>
      have hrest := ih (c.perform call).2 (bound + 1) ((becomes_perform call c).counted hc)
      rw [show bound + 1 + rest.length = bound + (call :: rest).length by simp; omega] at hrest
      exact hrest
  simpa using hcalls _ 0 (counted_prepared preparations)

/-! ### What stays -/

/-- What stays of a machine: its name, its identifier and its aggregates, and it keeps running and serving NVMe
    once it does. -/
structure Machine.Persists (machine machine' : Machine) : Prop where
  name : machine'.svm.name = machine.svm.name
  uuid : machine'.svm.uuid = machine.svm.uuid
  aggregates : machine'.svm.aggregates = machine.svm.aggregates
  running : machine.svm.state = .running → machine'.svm.state = .running
  nvmeEnabled : machine.svm.nvmeEnabled = true → machine'.svm.nvmeEnabled = true

theorem Machine.Persists.refl (machine : Machine) : machine.Persists machine := ⟨rfl, rfl, rfl, id, id⟩

theorem Machine.Persists.trans {machine machine' machine'' : Machine} (h : machine.Persists machine')
    (h' : machine'.Persists machine'') : machine.Persists machine'' where
  name := h'.name.trans h.name
  uuid := h'.uuid.trans h.uuid
  aggregates := h'.aggregates.trans h.aggregates
  running hrunning := h'.running (h.running hrunning)
  nvmeEnabled hnvme := h'.nvmeEnabled (h.nvmeEnabled hnvme)

/-- A look takes nothing from a machine. -/
theorem persists_advance (c : MemoryController) (machine : Machine) : machine.Persists (c.advance machine) where
  name := rfl
  uuid := rfl
  aggregates := rfl
  running hrunning := by simp [advance, hrunning]
  nvmeEnabled hnvme := by simp [advance, hnvme]

/-- What stays of a controller: machines, interfaces, accounts with their roles, and accepted orders. -/
structure Kept (c c' : MemoryController) : Prop where
  machines : ∀ name machine, c.machines.find? name = some machine →
    ∃ machine', c'.machines.find? name = some machine' ∧ machine.Persists machine'
  interfaces : c.interfaces <+: c'.interfaces
  accounts : ∀ key login, c.accounts.find? key = some login →
    ∃ login', c'.accounts.find? key = some login' ∧ login'.role = login.role
  orders : c.orders <+: c'.orders

theorem Kept.refl (c : MemoryController) : Kept c c where
  machines _ machine hmachine := ⟨machine, hmachine, .refl machine⟩
  interfaces := List.prefix_refl _
  accounts _ login hlogin := ⟨login, hlogin, rfl⟩
  orders := List.prefix_refl _

theorem Kept.trans (h : Kept c c') (h' : Kept c' c'') : Kept c c'' where
  machines name machine hmachine := by
    obtain ⟨machine', hmachine', hpersists⟩ := h.machines name machine hmachine
    obtain ⟨machine'', hmachine'', hpersists'⟩ := h'.machines name machine' hmachine'
    exact ⟨machine'', hmachine'', hpersists.trans hpersists'⟩
  interfaces := h.interfaces.trans h'.interfaces
  accounts key login hlogin := by
    obtain ⟨login', hlogin', hrole⟩ := h.accounts key login hlogin
    obtain ⟨login'', hlogin'', hrole'⟩ := h'.accounts key login' hlogin'
    exact ⟨login'', hlogin'', hrole'.trans hrole⟩
  orders := h.orders.trans h'.orders

theorem Becomes.machines_kept (h : c.Becomes call c') {name : String} {machine : Machine}
    (hmachine : c.machines.find? name = some machine) :
    ∃ machine', c'.machines.find? name = some machine' ∧ machine.Persists machine' := by
  cases h with
  | same _ | connected _ | opened _ | rotated _ => exact ⟨machine, hmachine, .refl machine⟩
  | @ordered order hfree =>
    -- an order is accepted only for a name that no machine has
    have hname : name ≠ order.name := by
      rintro rfl
      cases hfree.symm.trans hmachine
    exact ⟨machine, (SortedMap.find?_insert_of_ne _ hname _).trans hmachine, .refl machine⟩
  | @looked uuid found machines hupdate =>
    obtain ⟨key, old, hold, -, rfl, hnew, hothers⟩ := SortedMap.of_updateFirst?_eq_some hupdate
    by_cases hname : name = key
    · subst hname
      obtain rfl := Option.some.inj (hold.symm.trans hmachine)
      exact ⟨c.advance old, hnew, persists_advance c old⟩
    · exact ⟨machine, (hothers name hname).trans hmachine, .refl machine⟩

theorem Becomes.accounts_kept (h : c.Becomes call c') {key : KeyPair} {login : Login}
    (hlogin : c.accounts.find? key = some login) :
    ∃ login', c'.accounts.find? key = some login' ∧ login'.role = login.role := by
  cases h with
  | same _ | looked _ | ordered _ | connected _ => exact ⟨login, hlogin, rfl⟩
  | @opened order hfree =>
    have hkey : key ≠ ⟨order.ownerUuid, order.credentials.username⟩ := by
      rintro rfl
      cases hfree.symm.trans hlogin
    exact ⟨login, (SortedMap.find?_insert_of_ne _ hkey _).trans hlogin, rfl⟩
  | @rotated ownerUuid username password old hold =>
    by_cases hkey : key = ⟨ownerUuid, username⟩
    · subst hkey
      obtain rfl := Option.some.inj (hold.symm.trans hlogin)
      exact ⟨_, SortedMap.find?_insert_self _ _ _, rfl⟩
    · exact ⟨login, (SortedMap.find?_insert_of_ne _ hkey _).trans hlogin, rfl⟩

/-- No call takes anything away. -/
theorem Becomes.kept (h : c.Becomes call c') : Kept c c' where
  machines _ _ hmachine := h.machines_kept hmachine
  interfaces := h.interfaces_kept
  accounts _ _ hlogin := h.accounts_kept hlogin
  orders := by
    cases h with
    | ordered _ => exact List.prefix_append _ _
    | same _ | looked _ | connected _ | opened _ | rotated _ => exact List.prefix_refl _

/-- However many calls there are, they take nothing away. -/
theorem kept_after (calls : List ControllerCall) (c : MemoryController) : Kept c (c.after calls) :=
  after_of_keeps (p := Kept c) (fun _ call h => h.trans (becomes_perform call _).kept) calls (.refl c)

/-! ### Failures -/

/-- A call that fails changes nothing but its counter. -/
theorem perform_of_error {failure : Failure} (h : (c.perform call).1 = .error failure) :
    (c.perform call).2 = { c with tally := c.tally.add call } := by
  cases call with
  | svm _ | createSvm _ | createAccount _ | setPassword _ _ _ =>
    simp only [perform, answer] at h ⊢
    split at h
    · rename_i hcase
      simp [hcase]
    · cases h
  | createInterface interface =>
    simp only [perform, answer] at h ⊢
    -- an interface is refused for its name alone, or because it exists
    split at h
    · rename_i hfailing
      simp only [hfailing, if_true]
    · rename_i hallowed
      split at h
      · rename_i hthere
        simp only [hallowed, hthere, Bool.false_eq_true, if_true, if_false]
      · cases h
  | svmByName _ | nodes | aggregates | peerGroups | account _ _ => rfl

/-! ### Consistency -/

/-- Machines stand under their names, no machine has two interfaces of one name, and accepted orders have
    different names and their machines. -/
structure Consistent (c : MemoryController) : Prop where
  named : Named c
  interfaces : (c.interfaces.map fun interface => (interface.name, interface.svmUuid)).Nodup
  orders : (c.orders.map (·.name)).Nodup
  ordered : ∀ order ∈ c.orders, ∃ machine, c.machines.find? order.name = some machine ∧
    machine.svm.name = order.name ∧ machine.svm.aggregates = order.aggregates

/-- One more element leaves a list without repetition when its key is new. -/
theorem nodup_map_append_singleton {α β : Type} {key : α → β} {items : List α} {item : α}
    (hitems : (items.map key).Nodup) (hnew : key item ∉ items.map key) : ((items ++ [item]).map key).Nodup := by
  rw [List.map_append, List.nodup_append]
  refine ⟨hitems, by simp, ?_⟩
  rintro _ hthere _ hitem rfl
  rw [List.map_singleton, List.mem_singleton] at hitem
  exact hnew (hitem ▸ hthere)

/-- A machine has no interface of a name that none of its interfaces has. -/
theorem hasInterface_eq_false_iff {interface : Interface} : c.hasInterface interface = false ↔
    (interface.name, interface.svmUuid) ∉
      c.interfaces.map fun interface => (interface.name, interface.svmUuid) := by
  simp [hasInterface]

/-- Accepted orders keep their machines. -/
theorem Consistent.ordered_of_kept (hc : Consistent c) (hkept : Kept c c') :
    ∀ order ∈ c.orders, ∃ machine, c'.machines.find? order.name = some machine ∧
      machine.svm.name = order.name ∧ machine.svm.aggregates = order.aggregates := by
  intro order horder
  obtain ⟨machine, hmachine, hname, haggregates⟩ := hc.ordered order horder
  obtain ⟨machine', hmachine', hpersists⟩ := hkept.machines order.name machine hmachine
  exact ⟨machine', hmachine', hpersists.name.trans hname, hpersists.aggregates.trans haggregates⟩

/-- Every call keeps a controller consistent. -/
theorem Becomes.consistent (h : c.Becomes call c') (hc : Consistent c) : Consistent c' where
  named := h.named hc.named
  interfaces := by
    cases h with
    | @connected interface hfree =>
      exact nodup_map_append_singleton hc.interfaces (hasInterface_eq_false_iff.1 hfree)
    | same _ | looked _ | ordered _ | opened _ | rotated _ => exact hc.interfaces
  orders := by
    cases h with
    | @ordered order hfree =>
      refine nodup_map_append_singleton hc.orders fun hthere => ?_
      -- an earlier order of this name has its machine, which stands in the way
      obtain ⟨earlier, hearlier, hname⟩ := List.mem_map.1 hthere
      obtain ⟨machine, hmachine, -⟩ := hc.ordered earlier hearlier
      rw [hname, hfree] at hmachine
      cases hmachine
    | same _ | looked _ | connected _ | opened _ | rotated _ => exact hc.orders
  ordered := by
    have hearlier := hc.ordered_of_kept h.kept
    cases h with
    | @ordered order hfree =>
      intro other hother
      rcases List.mem_append.1 hother with hother | hother
      · exact hearlier other hother
      · obtain rfl := List.mem_singleton.1 hother
        exact ⟨_, SortedMap.find?_insert_self _ _ _, rfl, rfl⟩
    | same _ | looked _ | connected _ | opened _ | rotated _ => exact hearlier

/-- A controller that was only prepared has neither interfaces nor accepted orders. -/
theorem unused_prepared (preparations : List Preparation) :
    (prepared preparations).interfaces = [] ∧ (prepared preparations).orders = [] := by
  refine prepared_of_keeps (p := fun c => c.interfaces = [] ∧ c.orders = []) ⟨rfl, rfl⟩ ?_ preparations
  intro c preparation h
  cases preparation <;> exact h

theorem consistent_prepared (preparations : List Preparation) : Consistent (prepared preparations) := by
  obtain ⟨hinterfaces, horders⟩ := unused_prepared preparations
  exact {
    named := (built_of_history preparations []).named
    interfaces := by simp [hinterfaces]
    orders := by simp [horders]
    ordered := by simp [horders] }

/-- **A controller is consistent after any history.**  No counter has come further than the number of calls,
    further calls take nothing away, each adds one to its own counter, and one that fails changes nothing
    else. -/
theorem consistent_of_history (preparations : List Preparation) (earlier later : List ControllerCall)
    (call : ControllerCall) :
    let c := (prepared preparations).after earlier
    Consistent c ∧ Counted earlier.length c ∧ Kept c (c.after later) ∧
      (c.perform call).2.tally.toList = c.tally.toList.modify call.place (· + 1) ∧
      ∀ failure, (c.perform call).1 = .error failure →
        (c.perform call).2 = { c with tally := (c.perform call).2.tally } := by
  intro c
  have hconsistent : Consistent c :=
    after_of_keeps (fun c call h => (becomes_perform call c).consistent h) earlier
      (consistent_prepared preparations)
  have htally : (c.perform call).2.tally = c.tally.add call := (becomes_perform call c).tally
  refine ⟨hconsistent, counted_of_history preparations earlier, kept_after later c, ?_, ?_⟩
  · rw [htally, CallTally.add_toList]
  · intro failure hfailure
    rw [htally]
    exact perform_of_error hfailure

end MemoryController

end TenantStorage
