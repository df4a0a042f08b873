import Mathlib.Data.List.Nodup
import TenantStorage.Proofs.Memory.Histories

namespace TenantStorage.MemoryController

/-!
# Lookups by name and lookups by identifier

A machine gets its identifier from the one who prepares it, or, when it is ordered, from a counter.  A look by
identifier shows the first machine that has it, so the two kinds of lookups agree only as long as no identifier
of the counter was given away before.

* `ShowsOnly`, `LookupsAgree` — a machine that is found by name is the one that its identifier shows.
* `lookupsAgree_iff_uuidsDistinct` — this is so if and only if no two machines have the same identifier.
* `seeds`, `issued` — the machines that were put in place, and those that were ordered.
* `Sourced` — there are no others; `sourced_of_history` — this is so after any history.
* `Spared` — the counter has met no identifier that was given away.
* `lookups_iff_spared` — after any history the lookups agree if and only if this is so.
-/

variable {c c' : MemoryController} {call : ControllerCall} {name uuid : String}

/-! ### Agreement -/

/-- A look by an identifier shows the machine with a name, and changes no other. -/
def ShowsOnly (name uuid : String) (c : MemoryController) : Prop :=
  ∃ machine, c.machines.find? name = some machine ∧ (c.advance machine).svm.name = name ∧
    (c.perform (.svm uuid)).1 = .ok (c.advance machine).svm ∧
    (c.perform (.svm uuid)).2.machines.find? name = some (c.advance machine) ∧
    ∀ other, other ≠ name → (c.perform (.svm uuid)).2.machines.find? other = c.machines.find? other

/-- Every machine that is found by name is the one that a look by its identifier shows. -/
def LookupsAgree (c : MemoryController) : Prop :=
  ∀ name svm uuid, (c.perform (.svmByName name)).1 = .ok (some svm) → svm.uuid = some uuid →
    ShowsOnly name uuid (c.perform (.svmByName name)).2

/-- A look by an identifier that no other machine has shows this machine. -/
theorem showsOnly_of_unshared {machine : Machine} (hnamed : Named c)
    (hmachine : c.machines.find? name = some machine) (huuid : machine.svm.uuid = some uuid)
    (hunshared : Unshared name uuid c) : ShowsOnly name uuid c := by
  obtain ⟨hanswer, hadvanced⟩ := svm_of_find? hmachine huuid hunshared
  refine ⟨machine, hmachine, (hnamed name machine hmachine).1, hanswer, hadvanced, fun other hother => ?_⟩
  refine (becomes_perform (.svm uuid) c).machine (by rintro order ⟨⟩) ?_
  rintro _ ⟨⟩ hsame
  exact hother (hunshared other hsame)

/-- The two kinds of lookups agree if and only if no two machines have the same identifier. -/
theorem lookupsAgree_iff_uuidsDistinct (hnamed : Named c) : LookupsAgree c ↔ UuidsDistinct c := by
  constructor
  · intro hagree name uuid hname other hother
    obtain ⟨machine, hmachine, huuid⟩ := find?_of_uuidOf hname
    obtain ⟨machine', hmachine', huuid'⟩ := find?_of_uuidOf hother
    have hfound (name : String) (machine : Machine) (h : c.machines.find? name = some machine) :
        (c.perform (.svmByName name)).1 = .ok (some machine.svm) := by
      simp [perform, answer, svmByName, h]
    -- one look by the identifier would have to show both machines
    obtain ⟨shown, -, hshown, hanswer, -⟩ := hagree name _ uuid (hfound name machine hmachine) huuid
    obtain ⟨shown', -, hshown', hanswer', -⟩ := hagree other _ uuid (hfound other machine' hmachine') huuid'
    have hsame := Except.ok.inj (hanswer.symm.trans hanswer')
    rw [← hshown', ← hshown]
    exact congrArg Svm.name hsame.symm
  · intro hdistinct name svm uuid hfound huuid
    obtain ⟨machine, hmachine, rfl⟩ := Option.map_eq_some_iff.1 (Except.ok.inj hfound)
    have hname : uuidOf name c = some uuid := (uuidOf_of_find? hmachine).trans huuid
    exact showsOnly_of_unshared hnamed hmachine huuid (hdistinct name uuid hname)

/-! ### Where identifiers come from -/

/-- The identifier that the counter gives when it stands at a number. -/
def counterUuid (number : Nat) : String := "svm-uuid-" ++ number.repr

/-- Numbered texts are told apart by their numbers. -/
theorem append_repr_injective (front : String) :
    Function.Injective fun number : Nat => front ++ number.repr := by
  intro number number' h
  have hrepr : number.repr = number'.repr := (String.append_right_inj _).1 h
  simpa using congrArg (fun text : String => Nat.ofDigitChars 10 text.toList 0) hrepr

/-- The counter gives no identifier twice. -/
theorem counterUuid_injective : Function.Injective counterUuid := append_repr_injective "svm-uuid-"

/-- The names and identifiers of machines that were ordered one after another. -/
def issued (orders : List Svm.Order) : List (String × String) :=
  orders.mapIdx fun i order => (order.name, counterUuid (i + 1))

theorem issued_append_singleton (orders : List Svm.Order) (order : Svm.Order) :
    issued (orders ++ [order]) = issued orders ++ [(order.name, counterUuid (orders.length + 1))] :=
  List.mapIdx_concat

theorem map_snd_issued (orders : List Svm.Order) :
    (issued orders).map (·.2) = (List.range orders.length).map fun i => counterUuid (i + 1) :=
  List.ext_getElem (by simp [issued]) (by simp [issued])

/-- The name and the identifier of the machine that a preparation puts in place. -/
def Preparation.seed? : Preparation → Option (String × String)
  | runningSvm name uuid => some (name, uuid)
  | _ => none

/-- The names and identifiers of the machines that were put in place. -/
def seeds (preparations : List Preparation) : List (String × String) := preparations.filterMap (·.seed?)

/-- There are exactly the machines that are listed, each with its identifier. -/
structure Given (machines : List (String × String)) (c : MemoryController) : Prop where
  uuids : ∀ name uuid, uuidOf name c = some uuid ↔ (name, uuid) ∈ machines
  names : (machines.map (·.1)).Nodup

variable {machines : List (String × String)} {preparations : List Preparation}

/-- One more machine, with a new name. -/
theorem Given.insert (hc : Given machines c) (hname : name ∉ machines.map (·.1)) {machine : Machine}
    (huuid : machine.svm.uuid = some uuid) :
    Given (machines ++ [(name, uuid)]) { c with machines := c.machines.insert name machine } where
  uuids other otherUuid := by
    by_cases hother : other = name
    · subst hother
      have hnone : (other, otherUuid) ∉ machines := fun h => hname (List.mem_map_of_mem h)
      rw [uuidOf_of_find? (SortedMap.find?_insert_self _ _ _), huuid]
      simp [hnone, eq_comm]
    · rw [uuidOf, svmByName, SortedMap.find?_insert_of_ne _ hother, List.mem_append, ← hc.uuids]
      simp [uuidOf, svmByName, hother]
  names := nodup_map_append_singleton hc.names hname

/-- No two machines have the same identifier if and only if none is listed twice. -/
theorem Given.uuidsDistinct_iff (hc : Given machines c) : UuidsDistinct c ↔ (machines.map (·.2)).Nodup := by
  constructor
  · intro hdistinct
    refine List.Nodup.map_on ?_ (List.Nodup.of_map _ hc.names)
    rintro ⟨name, uuid⟩ hname ⟨other, _⟩ hother rfl
    rw [hdistinct name uuid ((hc.uuids _ _).2 hname) other ((hc.uuids _ _).2 hother)]
  · intro hnodup name uuid hname other hother
    have hsame := List.inj_on_of_nodup_map hnodup ((hc.uuids _ _).1 hname) ((hc.uuids _ _).1 hother) rfl
    exact (congrArg Prod.fst hsame).symm

/-- Every machine was put in place with its identifier, or was ordered and given the next one. -/
structure Sourced (seeds : List (String × String)) (c : MemoryController) : Prop where
  given : Given (seeds ++ issued c.orders) c
  assigned : c.assigned = c.orders.length

/-- The machines of a prepared controller are those that were put in place. -/
theorem given_prepared (hnames : ((seeds preparations).map (·.1)).Nodup) :
    Given (seeds preparations) (prepared preparations) := by
  -- generalised over what was put in place before
  have hrest (rest : List Preparation) (earlier : List (String × String)) (c : MemoryController)
      (hc : Given earlier c) (hnames : ((earlier ++ seeds rest).map (·.1)).Nodup) :
      Given (earlier ++ seeds rest) (rest.foldl prepare c) := by
    induction rest generalizing earlier c with
    | nil => simpa [seeds] using hc
    | cons preparation rest ih =>
      cases preparation with
      | runningSvm name uuid =>
        have hseeds : earlier ++ seeds (.runningSvm name uuid :: rest) =
            (earlier ++ [(name, uuid)]) ++ seeds rest := by
          simp [seeds, Preparation.seed?]
        rw [hseeds] at hnames ⊢
        have hnew : name ∉ earlier.map (·.1) := by
          rw [List.append_assoc, List.map_append, List.nodup_append] at hnames
          exact fun h => hnames.2.2 name h name (by simp) rfl
        exact ih _ _ (hc.insert hnew rfl) hnames
      | nodes _ | aggregates _ | peerGroups _ | account _ _ _ | readyAfter _ | nvmeAfter _ | neverReady
      | failInterface _ => exact ih earlier _ ⟨hc.uuids, hc.names⟩ hnames
  have hinitial : Given [] .initial := ⟨fun _ _ => ⟨by rintro ⟨⟩, by rintro ⟨⟩⟩, .nil⟩
  exact hrest preparations [] .initial hinitial hnames

/-- Every call leaves identifiers with the machines that they came to. -/
theorem Becomes.sourced (h : c.Becomes call c') (hc : Sourced machines c) : Sourced machines c' := by
  cases h with
  | same _ | connected _ | opened _ | rotated _ => exact ⟨⟨hc.given.uuids, hc.given.names⟩, hc.assigned⟩
  | @looked uuid _ _ hupdate =>
    refine ⟨⟨fun name otherUuid => ?_, hc.given.names⟩, hc.assigned⟩
    rw [(Becomes.looked hupdate).uuidOf_eq (by rintro order ⟨⟩)]
    exact hc.given.uuids name otherUuid
  | @ordered order hfree =>
    have hnew : order.name ∉ (machines ++ issued c.orders).map (·.1) := by
      rintro hthere
      obtain ⟨⟨_, uuid⟩, hlisted, rfl⟩ := List.mem_map.1 hthere
      obtain ⟨machine, hmachine, -⟩ := find?_of_uuidOf ((hc.given.uuids _ uuid).2 hlisted)
      cases hfree.symm.trans hmachine
    have huuid : (orderedMachine order (c.assigned + 1)).svm.uuid =
        some (counterUuid (c.orders.length + 1)) := by
      rw [← hc.assigned]
      rfl
    have hordered := hc.given.insert hnew huuid
    rw [List.append_assoc, ← issued_append_singleton] at hordered
    exact ⟨⟨hordered.uuids, hordered.names⟩, by simp [hc.assigned]⟩

/-- Identifiers come from nowhere else, whatever the history. -/
theorem sourced_of_history (hnames : ((seeds preparations).map (·.1)).Nodup) (calls : List ControllerCall) :
    Sourced (seeds preparations) ((prepared preparations).after calls) := by
  have hprepared : Sourced (seeds preparations) (prepared preparations) := by
    obtain ⟨-, horders⟩ := unused_prepared preparations
    refine ⟨?_, ?_⟩
    · simpa [horders, issued] using given_prepared hnames
    · simpa [horders] using (counted_prepared preparations).assigned
  exact after_of_keeps (fun c call h => (becomes_perform call c).sourced h) calls hprepared

/-! ### After any history -/

/-- The counter has met no identifier that was given away when the controller was prepared. -/
def Spared (preparations : List Preparation) (c : MemoryController) : Prop :=
  ∀ i < c.orders.length, counterUuid (i + 1) ∉ (seeds preparations).map (·.2)

instance (preparations : List Preparation) (c : MemoryController) : Decidable (Spared preparations c) :=
  inferInstanceAs (Decidable (∀ i < c.orders.length, _))

/-- No identifier is listed twice unless the counter has met one that was given away. -/
theorem nodup_iff_spared (huuids : ((seeds preparations).map (·.2)).Nodup) :
    ((seeds preparations ++ issued c.orders).map (·.2)).Nodup ↔ Spared preparations c := by
  have hissued : ((List.range c.orders.length).map fun i => counterUuid (i + 1)).Nodup :=
    List.nodup_range.map fun _ _ h => Nat.succ.inj (counterUuid_injective h)
  rw [List.map_append, map_snd_issued, List.nodup_append]
  constructor
  · rintro ⟨-, -, hapart⟩ i hi hthere
    exact hapart _ hthere _ (List.mem_map.2 ⟨i, List.mem_range.2 hi, rfl⟩) rfl
  · intro hspared
    refine ⟨huuids, hissued, ?_⟩
    rintro _ hthere _ hnumber rfl
    obtain ⟨i, hi, rfl⟩ := List.mem_map.1 hnumber
    exact hspared i (List.mem_range.1 hi) hthere

/-- **After any history the lookups agree if and only if the counter has met no identifier that was given
    away.**  Neither names nor identifiers are given away twice. -/
theorem lookups_iff_spared (preparations : List Preparation) (calls : List ControllerCall)
    (hnames : ((seeds preparations).map (·.1)).Nodup) (huuids : ((seeds preparations).map (·.2)).Nodup) :
    let c := (prepared preparations).after calls
    (UuidsDistinct c ↔ Spared preparations c) ∧ (LookupsAgree c ↔ Spared preparations c) := by
  intro c
  have hsourced : Sourced (seeds preparations) c := sourced_of_history hnames calls
  have hdistinct : UuidsDistinct c ↔ Spared preparations c :=
    hsourced.given.uuidsDistinct_iff.trans (nodup_iff_spared huuids)
  have hnamed : Named c := (built_of_history preparations calls).named
  exact ⟨hdistinct, (lookupsAgree_iff_uuidsDistinct hnamed).trans hdistinct⟩

/-- A machine that is ordered. -/
def newcomer : Svm.Order := ⟨"tenant-a", ["aggr1"], true⟩

/-- Beside a machine with an identifier of another kind the lookups agree, before and after one is looked at. -/
theorem newcomer_lookups_agree :
    let c := (prepared [.runningSvm "tenant-b" "7b2c"]).after [.createSvm newcomer, .svm "svm-uuid-1"]
    UuidsDistinct c ∧ LookupsAgree c := by
  intro c
  have hspared : Spared [.runningSvm "tenant-b" "7b2c"] c := by decide +kernel
  obtain ⟨hdistinct, hagree⟩ := lookups_iff_spared [.runningSvm "tenant-b" "7b2c"]
    [.createSvm newcomer, .svm "svm-uuid-1"] (by decide) (by decide)
  exact ⟨hdistinct.2 hspared, hagree.2 hspared⟩

/-- Beside a machine with the first identifier of the counter they do not: the identifier of the one shows the
    other. -/
theorem newcomer_shown_for_another :
    let c := (prepared [.runningSvm "tenant-b" "svm-uuid-1"]).after [.createSvm newcomer]
    (c.svmByName "tenant-b").bind (·.uuid) = some "svm-uuid-1" ∧
      (c.perform (.svm "svm-uuid-1")).1.toOption.map (·.name) = some "tenant-a" ∧
      ¬ UuidsDistinct c ∧ ¬ LookupsAgree c := by
  intro c
  have hshared : ¬ UuidsDistinct c := by decide +kernel
  have hnamed : Named c := (built_of_history _ _).named
  exact ⟨by decide +kernel, by decide +kernel, hshared,
    fun hagree => hshared ((lookupsAgree_iff_uuidsDistinct hnamed).1 hagree)⟩

end TenantStorage.MemoryController
