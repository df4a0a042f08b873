import TenantStorage.Yaml.Token

/-!
# YAML nodes

A document is a tree of nodes.  A node may have an anchor, and a reference stands for the node with the
anchor; since that node may contain the reference, references stay in the tree.

* `Node` — the tree.
* `Node.anchored` — the nodes with anchors, in the order in which they start.
-/

namespace TenantStorage.Yaml

/-- A part of a document.  Anchors are numbered. -/
inductive Node where
  | reference (anchor : Nat)
  | scalar (anchor : Option Nat) (tag : Option (List UInt8)) (style : Style) (text : String)
  | sequence (anchor : Option Nat) (items : List Node)
  | mapping (anchor : Option Nat) (members : List (Node × Node))
deriving Inhabited, Repr

namespace Node

/-- What stands where nothing is written. -/
def absent : Node := .scalar none none .plain ""

/-- The anchor of a node. -/
def anchor? : Node → Option Nat
  | .reference _ => none
  | .scalar anchor _ _ _ => anchor
  | .sequence anchor _ => anchor
  | .mapping anchor _ => anchor

/-- A node in front of others, if it has an anchor. -/
def consAnchored (node : Node) (others : List (Nat × Node)) : List (Nat × Node) :=
  match node.anchor? with
  | some anchor => (anchor, node) :: others
  | none => others

mutual

/-- The nodes with anchors, in the order in which they start. -/
def anchored : Node → List (Nat × Node)
  | .reference anchor => consAnchored (.reference anchor) []
  | .scalar anchor tag style text => consAnchored (.scalar anchor tag style text) []
  | .sequence anchor items => consAnchored (.sequence anchor items) (anchoredItems items)
  | .mapping anchor members => consAnchored (.mapping anchor members) (anchoredMembers members)

def anchoredItems : List Node → List (Nat × Node)
  | [] => []
  | item :: rest => item.anchored ++ anchoredItems rest

def anchoredMembers : List (Node × Node) → List (Nat × Node)
  | [] => []
  | (key, value) :: rest => key.anchored ++ (value.anchored ++ anchoredMembers rest)

end

end Node

end TenantStorage.Yaml
