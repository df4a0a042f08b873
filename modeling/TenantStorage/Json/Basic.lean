/-!
# JSON values

* `Json.Number` — a number as it is written: sign, whole part, and the text of fraction and exponent.
* `Json.Text` — a written string, which may fail to be Unicode text.
* `Json` — values.  An object keeps every member in the order in which it is written.
-/

namespace TenantStorage

/-- A written number.  The `tail` holds the fraction and the exponent and is empty for an integer. -/
structure Json.Number where
  negative : Bool
  whole : Nat
  tail : String
deriving DecidableEq, Repr, Inhabited

/-- What a written string stands for; `none` when it holds a lone surrogate or octets that are not
    UTF-8.  Such a string may be skipped but not read. -/
abbrev Json.Text := Option String

/-- A JSON value. -/
inductive Json where
  | null
  | bool (value : Bool)
  | number (value : Json.Number)
  | string (value : Json.Text)
  | array (items : List Json)
  | object (members : List (Json.Text × Json))
deriving Inhabited, Repr

namespace Json

/-! ### Building values -/

/-- A string value. -/
def ofText (text : String) : Json := .string (some text)

/-- A natural number. -/
def ofNat (n : Nat) : Json := .number ⟨false, n, ""⟩

/-- `null` in place of an absent value. -/
def ofOption {α : Type} (write : α → Json) : Option α → Json
  | none => .null
  | some a => write a

/-- An object with the given members. -/
def record (members : List (String × Json)) : Json :=
  .object (members.map fun member => (some member.1, member.2))

/-! ### Reading single values -/

/-- The text of a string. -/
def text? : Json → Option String
  | .string text => text
  | _ => none

/-- The truth value. -/
def bool? : Json → Option Bool
  | .bool b => some b
  | _ => none

/-- An integer without sign, fraction and exponent, below a bound. -/
def natural? (bound : Nat) : Json → Option Nat
  | .number ⟨false, n, ""⟩ => if n < bound then some n else none
  | _ => none

/-- Whether the value is `null`. -/
def isNull : Json → Bool
  | .null => true
  | _ => false

/-- The items of an array. -/
def items? : Json → Option (List Json)
  | .array items => some items
  | _ => none

/-- The items of an array, each read by `read`. -/
def listOf? {α : Type} (read : Json → Option α) (value : Json) : Option (List α) :=
  value.items?.bind fun items => items.mapM read

/-- The value of the last member with this key. -/
def member? (key : String) : Json → Option Json
  | .object members => members.reverse.lookup (some key)
  | _ => none

/-- The object with every value under this key changed. -/
def update (key : String) (change : Json → Json) : Json → Json
  | .object members => .object (members.map fun member =>
      if member.1 = some key then (member.1, change member.2) else member)
  | value => value

/-! ### Key order -/

mutual

/-- The value with the members of every object in key order; of members with one key the last stays. -/
def sorted : Json → Json
  | .array items => .array (sortedItems items)
  | .object members => .object (sortedMembers members)
  | value => value

def sortedItems : List Json → List Json
  | [] => []
  | item :: rest => item.sorted :: sortedItems rest

def sortedMembers : List (Json.Text × Json) → List (Json.Text × Json)
  | [] => []
  | (key, value) :: rest => place key value.sorted (sortedMembers rest)
where
  place (key : Json.Text) (value : Json) : List (Json.Text × Json) → List (Json.Text × Json)
    | [] => [(key, value)]
    | (k, v) :: rest =>
      match compare (key.getD "") (k.getD "") with
      | .lt => (key, value) :: (k, v) :: rest
      | .eq => (k, v) :: rest
      | .gt => (k, v) :: place key value rest

end

end Json

end TenantStorage
