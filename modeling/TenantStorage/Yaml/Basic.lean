import TenantStorage.Document
import TenantStorage.Yaml.Grammar
import TenantStorage.Yaml.Tokens

/-!
# YAML values

* `Yaml` — a node, with the nodes that its references stand for.
* `Yaml.parse?` — the value that a text holds.
* the instance `Document Yaml` — what is read from a value.
-/

namespace TenantStorage

/-- A YAML value. -/
structure Yaml where
  /-- The nodes with anchors, by the number of the anchor. -/
  anchors : List (Nat × Yaml.Node)
  node : Yaml.Node
deriving Inhabited, Repr

namespace Yaml

/-- The value that a text holds. -/
def parse? (text : String) : Option Yaml := do
  let root ← Node.ofTokens? (← tokens? text)
  return ⟨root.anchored.reverse, root⟩

/-- A node of the same document. -/
def part (value : Yaml) (node : Node) : Yaml := { value with node }

/-- The node that is meant: a reference stands for the last node with the number of its anchor. -/
def target (value : Yaml) : Node :=
  match value.node with
  | .reference anchor => (value.anchors.lookup anchor).getD value.node
  | node => node

/-! ### Scalars -/

/-- The text of a scalar, however it is written. -/
def text? (value : Yaml) : Option String :=
  match value.target with
  | .scalar _ _ _ text => some text
  | _ => none

/-- The text of a scalar that may stand for something else than a text: a plain one, or a literal block
    with the tag of what is wanted. -/
def literal? (tag : String) (value : Yaml) : Option String :=
  match value.target with
  | .scalar _ _ .plain text => some text
  | .scalar _ found .literal text => if found = some (Utf8.encode tag) then some text else none
  | _ => none

/-- A truth value in lower case, in upper case or with a capital. -/
def bool? (value : Yaml) : Option Bool := do
  let text ← value.literal? "tag:yaml.org,2002:bool"
  if ["true", "True", "TRUE"].contains text then some true
  else if ["false", "False", "FALSE"].contains text then some false
  else none

/-- The value of digits in a base. -/
def numeral? (base : Nat) (digits : List Char) : Option Nat := do
  let values ← digits.mapM fun c => (Text.hexValue? c).filter (· < base)
  if values.isEmpty then none else some (values.foldl (fun n d => base * n + d) 0)

/-- A number: decimal without leading zeros, or in base sixteen, eight or two behind `0x`, `0o` or `0b`.
    A plus sign may stand before it. -/
def number? (text : String) : Option Nat :=
  let cs := match text.toList with
    | '+' :: rest => rest
    | cs => cs
  match cs with
  | '0' :: 'x' :: digits => numeral? 16 digits
  | '0' :: 'o' :: digits => numeral? 8 digits
  | '0' :: 'b' :: digits => numeral? 2 digits
  | '0' :: _ :: _ => none
  | digits => numeral? 10 digits

/-- A natural number below a bound. -/
def natural? (bound : Nat) (value : Yaml) : Option Nat := do
  let n ← number? (← value.literal? "tag:yaml.org,2002:int")
  if n < bound then some n else none

/-! ### Mappings -/

/-- The members of a mapping.  A missing value is a mapping without members. -/
def members? (value : Yaml) : Option (List (Option String × Yaml)) :=
  match value.target with
  | .mapping _ members =>
    some (members.map fun (key, member) => ((value.part key).text?, value.part member))
  | .scalar _ _ .plain "" => some []
  | _ => none

instance : Document Yaml where
  members? := members?
  items? _ := none
  text? := text?
  bool? := bool?
  natural? := natural?

end Yaml

end TenantStorage
