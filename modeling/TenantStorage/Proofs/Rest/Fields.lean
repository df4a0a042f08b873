import Mathlib.Data.List.Forall2
import TenantStorage.Rest.Reply

namespace TenantStorage.Rest

/-!
# Fields of replies

The records of the management interface leave out what they have nothing to say about, or say `null`.

* `IsText`, `IsBool`, `ListOf` — values with a meaning.
* `HoldsDefault`, `HoldsOptional` — fields that may be left out.
* `get_eq_some_iff`, `get_orNull_eq_some_iff`, `listOf?_eq_some_iff` — what is read of them, for any reader that knows
  the meaning of values.
-/

/-! ### Values -/

/-- A text, as a value. -/
def IsText (text : String) (value : Json) : Prop := value = .ofText text

/-- A truth value, as a value. -/
def IsBool (b : Bool) (value : Json) : Prop := value = .bool b

theorem text?_iff (text : String) (value : Json) : value.text? = some text ↔ IsText text value := by
  cases value <;> simp [Json.text?, Json.ofText, IsText]

theorem bool?_iff (b : Bool) (value : Json) : value.bool? = some b ↔ IsBool b value := by
  cases value <;> simp [Json.bool?, IsBool]

theorem not_isText_null (text : String) : ¬IsText text .null := nofun

variable {α : Type} {Means : α → Json → Prop} {read : Json → Option α} {fields : Fields Json} {name : String}

/-- A list of values with meanings. -/
def ListOf (Means : α → Json → Prop) (as : List α) (value : Json) : Prop :=
  ∃ items, value = .array items ∧ List.Forall₂ Means as items

theorem listOf?_eq_some_iff (hread : ∀ a value, read value = some a ↔ Means a value) {as : List α} {value : Json} :
    Json.listOf? read value = some as ↔ ListOf Means as value := by
  have hitems (items : List Json) (as : List α) : items.mapM read = some as ↔ List.Forall₂ Means as items := by
    induction items generalizing as with
    | nil => cases as <;> simp
    | cons item items ih => cases as <;> simp [Option.bind_eq_some_iff, hread, ih]
  cases value <;> simp [Json.listOf?, Json.items?, ListOf, hitems]

/-! ### Fields that may be left out -/

/-- A field holds a value with a meaning, or is left out for a default. -/
def HoldsDefault (Means : α → Json → Prop) (base a : α) (found : Option Json) : Prop :=
  found = none ∧ a = base ∨ ∃ value, found = some value ∧ Means a value

/-- A field holds a value with a meaning; where there is none to tell, it is left out or `null`. -/
def HoldsOptional (Means : α → Json → Prop) : Option α → Option Json → Prop
  | none, found => found = none ∨ found = some .null
  | some a, found => ∃ value, found = some value ∧ Means a value

theorem get_eq_some_iff (hread : ∀ a value, read value = some a ↔ Means a value) {base a : α} :
    fields.get name read base = some a ↔ HoldsDefault Means base a (fields.find? name) := by
  cases h : fields.find? name with
  | none => simp [Fields.get, h, HoldsDefault, eq_comm]
  | some value => simp [Fields.get, h, HoldsDefault, hread]

theorem get_orNull_eq_some_iff (hread : ∀ a value, read value = some a ↔ Means a value)
    (hnull : ∀ a, ¬Means a .null) {given : Option α} :
    fields.get name (orNull? read) none = some given ↔ HoldsOptional Means given (fields.find? name) := by
  cases h : fields.find? name with
  | none => cases given <;> simp [Fields.get, h, HoldsOptional]
  | some value => cases value <;> cases given <;> simp [Fields.get, h, HoldsOptional, orNull?, hread, hnull]

end TenantStorage.Rest
