import TenantStorage.Json.Domain
import TenantStorage.Proofs.Address
import TenantStorage.Proofs.Json
import TenantStorage.Proofs.Records

namespace TenantStorage

/-!
# Domain values are read back

* `ReadBack` — values are read back from the text that is written for them.
* `Fields.of?_record` — the fields of a written record; `Json.listOf?_map`, `Fields.optional_ofOption` — lists and
  values that may be missing.
* `Svm.ofJson?_toJson` and the others — the reader of a type undoes its writer.
* `domain_readBack` — all domain types are read back from texts.
-/

variable {α : Type} {write : α → Json} {read : Json → Option α}

/-- Every value is read back from the text that is written for it. -/
def ReadBack (write : α → Json) (read : Json → Option α) : Prop :=
  ∀ a, (Json.parse? (write a).print).bind read = some a

theorem readBack_of_plain (hplain : ∀ a, (write a).Plain) (hread : ∀ a, read (write a) = some a) :
    ReadBack write read := by
  intro a
  rw [Json.parse?_print (hplain a), Option.bind_some, hread]

/-! ### Parts of records -/

/-- Known members with different keys are kept as they stand. -/
theorem Fields.ofMembers?_membersOf {names : List String} {members : List (String × Json)}
    (hknown : ∀ member ∈ members, member.1 ∈ names) (hkeys : (members.map (·.1)).Nodup) :
    ofMembers? names (Json.membersOf members) = some members := by
  induction members with
  | nil => rfl
  | cons member rest ih =>
    obtain ⟨hmember, hrest⟩ := List.forall_mem_cons.1 hknown
    obtain ⟨hnew, hkeys⟩ := List.nodup_cons.1 hkeys
    have hkept := ih hrest hkeys
    have hnone : rest.lookup member.1 = none := lookup_eq_none_of_not_mem hnew
    rw [Json.membersOf, List.map_cons, ← Json.membersOf, ofMembers?, hkept]
    simp [hmember, hnone]

/-- The fields of a written record. -/
theorem Fields.of?_record (names : List String) {members : List (String × Json)}
    (hnames : members.map (·.1) = names) (hnodup : names.Nodup) :
    of? names (.record members) = some ⟨members, false⟩ := by
  subst hnames
  have hknown : ∀ member ∈ members, member.1 ∈ members.map (·.1) := fun _ => List.mem_map_of_mem
  have hmembers := ofMembers?_membersOf hknown hnodup
  rw [Json.membersOf] at hmembers
  simp only [of?, Document.members?, Json.record, hmembers, Option.map_some]

@[simp] theorem Json.text?_ofText (text : String) : text? (.ofText text) = some text := rfl

@[simp] theorem Json.bool?_bool (value : Bool) : bool? (.bool value) = some value := rfl

/-- A written list is read back if its items are. -/
theorem Json.listOf?_map (hread : ∀ a, read (write a) = some a) (items : List α) :
    listOf? read (.array (items.map write)) = some items := by
  have hitems : (items.map write).mapM read = some items := by
    induction items with
    | nil => rfl
    | cons a items ih => simp [hread, ih]
  exact hitems

theorem Json.plain_texts (texts : List String) : (array (texts.map .ofText)).Plain :=
  .array (by simp [Plain.text])

theorem Json.plain_ofOption (text : Option String) : (ofOption .ofText text).Plain := by
  cases text with
  | none => exact .null
  | some text => exact .text text

/-- What may be missing is read back, unless it is written as `null`. -/
theorem Fields.optional_ofOption {fields : Fields Json} {name : String} {value : Option α}
    (hfound : fields.find? name = some (.ofOption write value)) (hread : ∀ a, read (write a) = some a)
    (hnull : ∀ a, write a ≠ .null) : fields.optional name read = some value := by
  cases value with
  | none => simp [optional, hfound, Json.ofOption]
  | some a => simp [optional, hfound, Json.ofOption, hread, hnull]

/-! ### Machines -/

namespace Svm

theorem State.ofJson?_toJson (state : State) : ofJson? state.toJson = some state := by
  cases state <;> rfl

theorem State.plain_toJson (state : State) : state.toJson.Plain := by
  cases state with
  | creating | running => exact .text _
  | other word => exact .record (by simp [Json.Plain.text])

theorem ofJson?_toJson (svm : Svm) : ofJson? svm.toJson = some svm := by
  have huuid (fields : Fields Json) (h : fields.find? "uuid" = some (.ofOption .ofText svm.uuid)) :
      fields.optional "uuid" Json.text? = some svm.uuid := Fields.optional_ofOption h Json.text?_ofText nofun
  have haggregates := Json.listOf?_map Json.text?_ofText svm.aggregates
  rw [ofJson?, toJson, Fields.of?_record ["name", "uuid", "state", "nvme_enabled", "aggregates"] rfl (by decide)]
  simp [Fields.require, Fields.find?, List.lookup_cons, huuid, State.ofJson?_toJson, haggregates]

theorem plain_toJson (svm : Svm) : svm.toJson.Plain := by
  exact .record (by
    simp [Json.Plain.text, Json.Plain.bool, Json.plain_ofOption, State.plain_toJson, Json.plain_texts])

theorem Order.ofJson?_toJson (order : Order) : ofJson? order.toJson = some order := by
  have haggregates := Json.listOf?_map Json.text?_ofText order.aggregates
  rw [ofJson?, toJson, Fields.of?_record ["name", "aggregates", "nvme_enabled"] rfl (by decide)]
  simp [Fields.require, Fields.find?, List.lookup_cons, haggregates]

theorem Order.plain_toJson (order : Order) : order.toJson.Plain :=
  .record (by simp [Json.Plain.text, Json.Plain.bool, Json.plain_texts])

end Svm

/-! ### Nodes, aggregates and interfaces -/

theorem Node.ofJson?_toJson (node : Node) : ofJson? node.toJson = some node := by
  rw [ofJson?, toJson, Fields.of?_record ["uuid", "name"] rfl (by decide)]
  simp [Fields.require, Fields.find?, List.lookup_cons]

theorem Node.plain_toJson (node : Node) : node.toJson.Plain := .record (by simp [Json.Plain.text])

theorem Aggregate.ofJson?_toJson (aggregate : Aggregate) : ofJson? aggregate.toJson = some aggregate := by
  rw [ofJson?, toJson, Fields.of?_record ["uuid", "name"] rfl (by decide)]
  simp [Fields.require, Fields.find?, List.lookup_cons]

theorem Aggregate.plain_toJson (aggregate : Aggregate) : aggregate.toJson.Plain :=
  .record (by simp [Json.Plain.text])

namespace Interface

theorem Role.ofJson?_toJson (role : Role) : ofJson? role.toJson = some role := by
  cases role <;> rfl

theorem Role.plain_toJson (role : Role) : role.toJson.Plain := .text role.text

theorem address?_ofText (address : Address) : address? (.ofText address.text) = some address := by
  rw [address?, Json.text?_ofText, Option.bind_some, Address.parse?_text]

theorem netmask?_ofNat (netmask : UInt8) : netmask? (.ofNat netmask.toNat) = some netmask := by
  have hlt : netmask.toNat < 256 := netmask.toNat_lt
  simp [netmask?, Json.natural?, Json.ofNat, hlt]

theorem ofJson?_toJson (interface : Interface) : ofJson? interface.toJson = some interface := by
  rw [ofJson?, toJson, Fields.of?_record ["name", "ip", "netmask", "role", "vip", "service_policy", "svm_uuid",
    "node_uuid"] rfl (by decide)]
  simp [Fields.require, Fields.find?, List.lookup_cons, address?_ofText, netmask?_ofNat, Role.ofJson?_toJson]

theorem plain_toJson (interface : Interface) : interface.toJson.Plain :=
  .record (by simp [Json.Plain.text, Json.Plain.bool, Json.plain_ofNat, Role.plain_toJson])

end Interface

/-! ### Accounts -/

theorem Account.ofJson?_toJson (account : Account) : ofJson? account.toJson = some account := by
  rw [ofJson?, toJson, Fields.of?_record ["owner_uuid", "username", "role", "locked"] rfl (by decide)]
  simp [Fields.require, Fields.find?, List.lookup_cons]

theorem Account.plain_toJson (account : Account) : account.toJson.Plain :=
  .record (by simp [Json.Plain.text, Json.Plain.bool])

/-! ### All types -/

/-- **Every value of the domain is read back from its JSON text.**  So a state under a word of its own stays one, even
    if the word is that of a known state, and a missing identifier stays missing. -/
theorem domain_readBack :
    ReadBack Svm.State.toJson Svm.State.ofJson? ∧ ReadBack Svm.toJson Svm.ofJson? ∧
      ReadBack Svm.Order.toJson Svm.Order.ofJson? ∧ ReadBack Node.toJson Node.ofJson? ∧
      ReadBack Aggregate.toJson Aggregate.ofJson? ∧ ReadBack Interface.Role.toJson Interface.Role.ofJson? ∧
      ReadBack Interface.toJson Interface.ofJson? ∧ ReadBack Account.toJson Account.ofJson? :=
  ⟨readBack_of_plain Svm.State.plain_toJson Svm.State.ofJson?_toJson,
    readBack_of_plain Svm.plain_toJson Svm.ofJson?_toJson,
    readBack_of_plain Svm.Order.plain_toJson Svm.Order.ofJson?_toJson,
    readBack_of_plain Node.plain_toJson Node.ofJson?_toJson,
    readBack_of_plain Aggregate.plain_toJson Aggregate.ofJson?_toJson,
    readBack_of_plain Interface.Role.plain_toJson Interface.Role.ofJson?_toJson,
    readBack_of_plain Interface.plain_toJson Interface.ofJson?_toJson,
    readBack_of_plain Account.plain_toJson Account.ofJson?_toJson⟩

end TenantStorage
