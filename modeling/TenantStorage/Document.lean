/-!
# Records in structured documents

JSON and YAML documents both carry records.  What a record reader needs to know of a document is
gathered in a class, so each record type has one reader for both formats.

* `Document` — how scalars, mappings and sequences of a format are read.
* `Fields` — the known fields of a record, as they stand in a document.
* `Fields.of?` — a known field may be given once only, unknown fields do not matter, and a sequence
  gives the fields in the order of their declaration.
* `Fields.require`, `Fields.get` — a field that must be there, and one with a default.
-/

namespace TenantStorage

/-- How the values of a format are read. -/
class Document (ν : Type) where
  /-- The members of a mapping; a key that is not text is `none`. -/
  members? : ν → Option (List (Option String × ν))
  /-- The items of a sequence, in a format that lets a sequence stand for a record. -/
  items? : ν → Option (List ν)
  /-- A text. -/
  text? : ν → Option String
  /-- A truth value. -/
  bool? : ν → Option Bool
  /-- A natural number below a bound. -/
  natural? : (bound : Nat) → ν → Option Nat

/-- The known fields of a record.  `positional` tells that they were given by position, in which case
    even a field that may be missing from a mapping has to be there. -/
structure Fields (ν : Type) where
  values : List (String × ν)
  positional : Bool

namespace Fields

variable {ν α : Type}

/-- The members with a known key.  Nothing is returned when a key is not text or a known key occurs twice. -/
def ofMembers? (names : List String) : List (Option String × ν) → Option (List (String × ν))
  | [] => some []
  | (none, _) :: _ => none
  | (some key, value) :: rest => do
    let found ← ofMembers? names rest
    if !names.contains key then return found
    if (found.lookup key).isSome then none else return (key, value) :: found

/-- The fields with the given names that a document holds. -/
def of? [Document ν] (names : List String) (document : ν) : Option (Fields ν) :=
  match Document.members? document with
  | some members => (ofMembers? names members).map fun values => ⟨values, false⟩
  | none =>
    match Document.items? document with
    | some items => if items.length ≤ names.length then some ⟨names.zip items, true⟩ else none
    | none => none

/-- The value of a field, if it is given. -/
def find? (fields : Fields ν) (name : String) : Option ν := fields.values.lookup name

/-- A field that must be given. -/
def require (fields : Fields ν) (name : String) (read : ν → Option α) : Option α :=
  (fields.find? name).bind read

/-- A field that takes a default when it is not given. -/
def get (fields : Fields ν) (name : String) (read : ν → Option α) (default : α) : Option α :=
  match fields.find? name with
  | none => some default
  | some value => read value

end Fields

end TenantStorage
