import TenantStorage.Proofs.LetterCase
import TenantStorage.Proofs.Records
import TenantStorage.Proofs.Rest.Fields

namespace TenantStorage

/-!
# Machines in replies

The management interface tells of a machine in a record of which nearly everything may be missing.  Its state is a
word, in any letter case; words that are not known are kept in small letters.

* `Svm.State.parse_lower`, `parse_eq_running_iff` — letter case does not count in a word for a state.
* `Rest.MachineRecord`, `Rest.MachineRecord.DescribedBy` — what is told of a machine, and how.
* `Rest.svm?_eq_some_iff` — the reader of machines accepts just the values that describe a record.
* `Rest.readiness_of_record` — what the words for states mean, and which records make a ready machine.
-/

/-! ### Words for states -/

namespace Svm.State

open Text

theorem parse_eq (word : String) :
    parse word =
      if lower word = "creating" ∨ lower word = "initializing" then .creating
      else if lower word = "running" then .running
      else .other (lower word) := by
  unfold parse
  split <;> simp_all

/-- Letter case does not count. -/
theorem parse_lower (word : String) : parse (lower word) = parse word := by
  rw [parse_eq, parse_eq, lower_lower]

/-- A state that is not known is kept under its word in small letters, which is not known either. -/
theorem parse_of_other {word other : String} (h : parse word = .other other) : parse other = .other other := by
  have hlower : other = lower word := by
    rw [parse_eq] at h
    split at h
    · cases h
    · split at h <;> cases h
      rfl
  rw [hlower, parse_lower, h, hlower]

theorem parse_text_parse (word : String) : parse (parse word).text = parse word := by
  cases h : parse word with
  | creating | running => rfl
  | other other => exact parse_of_other h

theorem parse_eq_running_iff {word : String} : parse word = .running ↔ Spells word.toList "running".toList := by
  have hlower : lower word = "running" ↔ Spells word.toList "running".toList := lower_eq_iff (by decide)
  rw [← hlower, parse_eq]
  split
  · rename_i hcreating
    simp only [reduceCtorEq, false_iff]
    rcases hcreating with hword | hword <;> simp [hword]
  · split <;> simp_all

end Svm.State

namespace Rest

/-! ### Records -/

/-- A record tells whether a service is enabled; where it does not tell, it is not. -/
def IsService (enabled : Bool) (value : Json) : Prop :=
  ∃ field, Gives ["enabled"] value field ∧ HoldsDefault IsBool false enabled (field "enabled")

/-- A record refers to something by name and identifier, of which both may be missing. -/
def Reference.DescribedBy (reference : Reference) (value : Json) : Prop :=
  ∃ field, Gives ["name", "uuid"] value field ∧
    HoldsDefault IsText "" reference.name (field "name") ∧ HoldsOptional IsText reference.uuid (field "uuid")

/-- What is told of a machine. -/
structure MachineRecord where
  name : String
  uuid : Option String
  /-- The word for the state. -/
  state : Option String
  /-- Whether the NVMe service is enabled, if there is one. -/
  nvme : Option Bool
  aggregates : List Reference
deriving DecidableEq, Repr

namespace MachineRecord

/-- The fields of a record tell of a machine. -/
structure Told (record : MachineRecord) (field : String → Option Json) : Prop where
  name : field "name" = some (.ofText record.name)
  uuid : HoldsOptional IsText record.uuid (field "uuid")
  state : HoldsOptional IsText record.state (field "state")
  nvme : HoldsOptional IsService record.nvme (field "nvme")
  aggregates : HoldsDefault (ListOf Reference.DescribedBy) [] record.aggregates (field "aggregates")

/-- A value is a record that tells of a machine. -/
def DescribedBy (record : MachineRecord) (value : Json) : Prop :=
  ∃ field, Gives ["name", "uuid", "state", "nvme", "aggregates"] value field ∧ record.Told field

/-- The machine that is told of.  Without a word for its state it is being created, and without an NVMe service it
    has none that is enabled. -/
def machine (record : MachineRecord) : Svm where
  name := record.name
  uuid := record.uuid
  state := (record.state.map Svm.State.parse).getD .creating
  nvmeEnabled := record.nvme.getD false
  aggregates := record.aggregates.map (·.name)

end MachineRecord

theorem protocolEnabled?_iff (enabled : Bool) (value : Json) :
    protocolEnabled? value = some enabled ↔ IsService enabled value := by
  refine Fields.of?_bind_eq_some_iff fun fields field hagree => ?_
  rw [get_eq_some_iff bool?_iff, hagree "enabled" (by simp)]

theorem not_isService_null (enabled : Bool) : ¬IsService enabled .null := by
  rw [← protocolEnabled?_iff]
  exact nofun

theorem reference?_iff (reference : Reference) (value : Json) :
    Reference.ofJson? value = some reference ↔ reference.DescribedBy value := by
  refine Fields.of?_bind_eq_some_iff fun fields field hagree => ?_
  rw [← hagree "name" (by simp), ← hagree "uuid" (by simp), ← get_eq_some_iff text?_iff,
    ← get_orNull_eq_some_iff text?_iff not_isText_null]
  constructor
  · intro hread
    obtain ⟨name, hname, hrest⟩ := Option.bind_eq_some_iff.1 hread
    obtain ⟨uuid, huuid, hreference⟩ := Option.bind_eq_some_iff.1 hrest
    obtain rfl := Option.some.inj hreference
    exact ⟨hname, huuid⟩
  · rintro ⟨hname, huuid⟩
    simp [hname, huuid]

/-- What is read of the fields is what they tell. -/
theorem told_iff {fields : Fields Json} {field : String → Option Json}
    (hagree : ∀ name ∈ ["name", "uuid", "state", "nvme", "aggregates"], fields.find? name = field name)
    (record : MachineRecord) :
    record.Told field ↔
      fields.require "name" Json.text? = some record.name ∧
        fields.get "uuid" (orNull? Json.text?) none = some record.uuid ∧
        fields.get "state" (orNull? Json.text?) none = some record.state ∧
        fields.get "nvme" (orNull? protocolEnabled?) none = some record.nvme ∧
        fields.get "aggregates" (Json.listOf? Reference.ofJson?) [] = some record.aggregates := by
  have hname : fields.require "name" Json.text? = some record.name ↔ field "name" = some (.ofText record.name) := by
    rw [Fields.require, hagree "name" (by simp), Option.bind_eq_some_iff]
    simp [text?_iff, IsText]
  rw [hname, get_orNull_eq_some_iff text?_iff not_isText_null, get_orNull_eq_some_iff text?_iff not_isText_null,
    get_orNull_eq_some_iff protocolEnabled?_iff not_isService_null,
    get_eq_some_iff fun _ _ => listOf?_eq_some_iff reference?_iff,
    hagree "uuid" (by simp), hagree "state" (by simp), hagree "nvme" (by simp), hagree "aggregates" (by simp)]
  constructor
  · intro h
    exact ⟨h.name, h.uuid, h.state, h.nvme, h.aggregates⟩
  · rintro ⟨hname, huuid, hstate, hnvme, haggregates⟩
    exact ⟨hname, huuid, hstate, hnvme, haggregates⟩

/-- A value is read as a machine just when it describes a record that tells of that machine. -/
theorem svm?_eq_some_iff {value : Json} {svm : Svm} :
    svm? value = some svm ↔ ∃ record : MachineRecord, record.DescribedBy value ∧ svm = record.machine := by
  have hread : svm? value = some svm ↔ ∃ field, Gives ["name", "uuid", "state", "nvme", "aggregates"] value field ∧
      ∃ record : MachineRecord, record.Told field ∧ svm = record.machine := by
    refine Fields.of?_bind_eq_some_iff fun fields field hagree => ?_
    simp only [told_iff hagree]
    constructor
    · intro hsome
      obtain ⟨name, hname, hrest⟩ := Option.bind_eq_some_iff.1 hsome
      obtain ⟨uuid, huuid, hrest⟩ := Option.bind_eq_some_iff.1 hrest
      obtain ⟨state, hstate, hrest⟩ := Option.bind_eq_some_iff.1 hrest
      obtain ⟨nvme, hnvme, hrest⟩ := Option.bind_eq_some_iff.1 hrest
      obtain ⟨aggregates, haggregates, hsvm⟩ := Option.bind_eq_some_iff.1 hrest
      exact ⟨⟨name, uuid, state, nvme, aggregates⟩, ⟨hname, huuid, hstate, hnvme, haggregates⟩,
        (Option.some.inj hsvm).symm⟩
    · rintro ⟨record, ⟨hname, huuid, hstate, hnvme, haggregates⟩, rfl⟩
      simp [hname, huuid, hstate, hnvme, haggregates, MachineRecord.machine]
  rw [hread]
  constructor
  · rintro ⟨field, hgives, record, htold, hsvm⟩
    exact ⟨record, ⟨field, hgives, htold⟩, hsvm⟩
  · rintro ⟨record, ⟨field, hgives, htold⟩, hsvm⟩
    exact ⟨field, hgives, record, htold, hsvm⟩

/-! ### Readiness -/

theorem isReady_machine_iff (record : MachineRecord) :
    record.machine.isReady = true ↔
      record.uuid.isSome = true ∧ (∃ word, record.state = some word ∧ Text.Spells word.toList "running".toList) ∧
        record.nvme = some true := by
  have hstate : record.machine.state = .running ↔
      ∃ word, record.state = some word ∧ Text.Spells word.toList "running".toList := by
    cases h : record.state with
    | none => simp [MachineRecord.machine, h]
    | some word => simp [MachineRecord.machine, h, Svm.State.parse_eq_running_iff]
  have hnvme : record.machine.nvmeEnabled = true ↔ record.nvme = some true := by
    cases h : record.nvme <;> simp [MachineRecord.machine, h]
  have huuid : record.machine.uuid = record.uuid := rfl
  rw [Svm.isReady, Bool.and_eq_true, Bool.and_eq_true, beq_iff_eq, hstate, hnvme, huuid, and_assoc]

/-- **A record makes a ready machine just when it says so.**  The word for a state is read the same when it is written
    and read again, and a word that is kept as it is does not mean that a machine is being created or runs.  A reply
    is read as a machine just when it describes a record, and the machine is ready just when the record has an
    identifier, a word for the state that spells `running` in any letter case, and an NVMe service that is enabled. -/
theorem readiness_of_record :
    (∀ word, Svm.State.parse (Svm.State.parse word).text = Svm.State.parse word) ∧
    (∀ word other, Svm.State.parse word = .other other →
      Svm.State.parse other ≠ .creating ∧ Svm.State.parse other ≠ .running) ∧
    (∀ value svm, svm? value = some svm ↔ ∃ record : MachineRecord, record.DescribedBy value ∧ svm = record.machine) ∧
    ∀ record : MachineRecord, record.machine.isReady = true ↔
      record.uuid.isSome = true ∧ (∃ word, record.state = some word ∧ Text.Spells word.toList "running".toList) ∧
        record.nvme = some true := by
  refine ⟨Svm.State.parse_text_parse, fun word other h => ?_, fun value svm => svm?_eq_some_iff, isReady_machine_iff⟩
  have hother := Svm.State.parse_of_other h
  simp [hother]

end Rest

end TenantStorage
