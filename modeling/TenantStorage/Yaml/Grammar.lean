import TenantStorage.Octets.Utf8
import TenantStorage.Yaml.Node

/-!
# From tokens to nodes

* `Composer` — a reader of tokens that knows the anchors and tag handles met so far.
* `Composer.node` — one node, and everything in it.
* `Composer.document` — the only document of a text.
* `Node.ofTokens?` — the root of that document.
-/

namespace TenantStorage.Yaml

/-- What is known while a document is read. -/
structure Composer.State where
  /-- What is left to read. -/
  tokens : List Token
  /-- The names of the anchors, each with the number of the node that had it last. -/
  anchors : List (String × Nat)
  /-- What the handles of tags stand for. -/
  handles : List (String × List UInt8)

/-- A reader of tokens, which gives nothing for what is no document. -/
abbrev Composer := StateT Composer.State Option

namespace Composer

/-! ### Single tokens -/

/-- The next token, which stays there. -/
def peek : Composer (Option Token) := do return (← get).tokens.head?

/-- Passes over the next token. -/
def skip : Composer Unit := modify fun state => { state with tokens := state.tokens.tail }

/-- Whether the next token is one of some. -/
def sees (tokens : List Token) : Composer Bool := do
  return (← peek).any fun token => tokens.contains token

/-- Passes over the next token if it is this one. -/
def skipIf (token : Token) : Composer Bool := do
  if ← sees [token] then
    skip
    return true
  else return false

/-- Passes over the next token, which has to be this one. -/
def expect (token : Token) : Composer Unit := do
  if ← skipIf token then return () else failure

/-! ### Anchors and tags -/

/-- Gives an anchor the number of names known so far.  A name that is given again counts once, so the
    node after it may get its number too. -/
def register (name : String) : Composer Nat := do
  let state ← get
  let number := state.anchors.length
  set { state with anchors := (name, number) :: state.anchors.filter (·.1 != name) }
  return number

/-- The number of an anchor that has been given. -/
def numberOf (name : String) : Composer Nat := do
  match (← get).anchors.lookup name with
  | some number => return number
  | none => failure

/-- A whole tag.  An empty handle stands before a tag in full. -/
def resolve (handle : String) (suffix : List UInt8) : Composer (List UInt8) := do
  if handle.isEmpty then return suffix
  match (← get).handles.lookup handle with
  | some start => return start ++ suffix
  | none => failure

/-- The anchor and the tag before a node, in either order, each at most once. -/
def properties : Composer (Option Nat × Option (List UInt8)) := do
  match ← peek with
  | some (.anchor name) =>
    skip
    match ← peek with
    | some (.tag handle suffix) =>
      skip
      let tag ← resolve handle suffix
      return (some (← register name), some tag)
    | _ => return (some (← register name), none)
  | some (.tag handle suffix) =>
    skip
    let tag ← resolve handle suffix
    match ← peek with
    | some (.anchor name) =>
      skip
      return (some (← register name), some tag)
    | _ => return (none, some tag)
  | _ => return (none, none)

/-- The tag of a scalar.  An exclamation mark alone is as good as none. -/
def scalarTag (tag : Option (List UInt8)) : Option (List UInt8) :=
  if tag = some (Utf8.encode "!") then none else tag

/-! ### Nodes

Every function takes a bound on the depth of its calls.  Of three calls in a row at least one takes a
token, so three times the number of tokens is enough. -/

mutual

/-- A node.  Where `block` holds it may be a block; where `indentless` holds, also a sequence that is
    indented as the mapping around it. -/
def node : (bound : Nat) → (block indentless : Bool) → Composer Node
  | 0, _, _ => failure
  | bound + 1, block, indentless => do
    match ← peek with
    | some (.reference name) =>
      skip
      return .reference (← numberOf name)
    | _ => pure ()
    let (anchor, tag) ← properties
    match indentless, block, ← peek with
    | true, _, some .blockEntry => return .sequence anchor (← indentlessItems bound [])
    | _, _, some (.scalar style text) =>
      skip
      return .scalar anchor (scalarTag tag) style text
    | _, _, some .flowSequenceStart =>
      skip
      return .sequence anchor (← flowItems bound true [])
    | _, _, some .flowMappingStart =>
      skip
      return .mapping anchor (← flowMembers bound true [])
    | _, true, some .blockSequenceStart =>
      skip
      return .sequence anchor (← blockItems bound [])
    | _, true, some .blockMappingStart =>
      skip
      return .mapping anchor (← blockMembers bound [])
    | _, _, _ => if anchor.isSome || tag.isSome then return .scalar anchor tag .plain "" else failure

/-- A node, or nothing where one of `ends` follows. -/
def nodeUnless : (bound : Nat) → (ends : List Token) → (block indentless : Bool) → Composer Node
  | 0, _, _, _ => failure
  | bound + 1, ends, block, indentless => do
    if ← sees ends then return .absent else node bound block indentless

/-- The items of a block sequence, up to its end. -/
def blockItems : (bound : Nat) → List Node → Composer (List Node)
  | 0, _ => failure
  | bound + 1, items => do
    if ← skipIf .blockEntry then
      let item ← nodeUnless bound [.blockEntry, .blockEnd] true false
      blockItems bound (item :: items)
    else if ← skipIf .blockEnd then return items.reverse
    else failure

/-- The items of a block sequence that is not indented, as long as there are any. -/
def indentlessItems : (bound : Nat) → List Node → Composer (List Node)
  | 0, _ => failure
  | bound + 1, items => do
    if ← skipIf .blockEntry then
      let item ← nodeUnless bound [.blockEntry, .key, .value, .blockEnd] true false
      indentlessItems bound (item :: items)
    else return items.reverse

/-- The members of a block mapping, up to its end. -/
def blockMembers : (bound : Nat) → List (Node × Node) → Composer (List (Node × Node))
  | 0, _ => failure
  | bound + 1, members => do
    if ← skipIf .key then
      let ends := [.key, .value, .blockEnd]
      let key ← nodeUnless bound ends true true
      let value ← if ← skipIf .value then nodeUnless bound ends true true else pure .absent
      blockMembers bound ((key, value) :: members)
    else if ← skipIf .blockEnd then return members.reverse
    else failure

/-- The items of a sequence in brackets.  A key makes a mapping of one member. -/
def flowItems : (bound : Nat) → (first : Bool) → List Node → Composer (List Node)
  | 0, _, _ => failure
  | bound + 1, first, items => do
    if ← skipIf .flowSequenceEnd then return items.reverse
    if !first then expect .flowEntry
    if ← skipIf .flowSequenceEnd then return items.reverse
    if ← skipIf .key then
      let ends := [.flowEntry, .flowSequenceEnd]
      let key ←
        if ← sees (.value :: ends) then do
          skip
          pure .absent
        else node bound false false
      let value ← if ← skipIf .value then nodeUnless bound ends false false else pure .absent
      flowItems bound false (.mapping none [(key, value)] :: items)
    else
      let item ← node bound false false
      flowItems bound false (item :: items)

/-- The members of a mapping in braces.  A node that is no key is one without a value. -/
def flowMembers : (bound : Nat) → (first : Bool) → List (Node × Node) → Composer (List (Node × Node))
  | 0, _, _ => failure
  | bound + 1, first, members => do
    if ← skipIf .flowMappingEnd then return members.reverse
    if !first then expect .flowEntry
    if ← skipIf .flowMappingEnd then return members.reverse
    if ← skipIf .key then
      let ends := [.flowEntry, .flowMappingEnd]
      let key ← nodeUnless bound (.value :: ends) false false
      let value ← if ← skipIf .value then nodeUnless bound ends false false else pure .absent
      flowMembers bound false ((key, value) :: members)
    else
      let key ← node bound false false
      flowMembers bound false ((key, .absent) :: members)

end

/-! ### Documents -/

/-- The directives before a document: at most one version, which has to be 1.1 or 1.2, and every handle
    at most once. -/
def directives (version : Bool) (handles : List (String × List UInt8)) :
    List Token → Option (List (String × List UInt8) × List Token)
  | .versionDirective major minor :: rest =>
    if version || major != 1 || !(minor == 1 || minor == 2) then none
    else directives true handles rest
  | .tagDirective handle start :: rest =>
    if (handles.lookup handle).isSome then none
    else directives version ((handle, start) :: handles) rest
  | tokens => some (handles, tokens)

/-- The handles that need no directive. -/
def standardHandles : List (String × List UInt8) :=
  [("!", Utf8.encode "!"), ("!!", Utf8.encode "tag:yaml.org,2002:")]

/-- The root of the only document.  It may be missing, and begins with a line of its own if there are
    directives. -/
def document (bound : Nat) : Composer Node := do
  match ← peek with
  | none => return .absent
  | some (.versionDirective ..) | some (.tagDirective ..) | some .documentStart =>
    let state ← get
    match directives false [] state.tokens with
    | some (handles, .documentStart :: tokens) =>
      set { state with tokens, handles := handles ++ standardHandles }
      match ← peek with
      | none | some (.versionDirective ..) | some (.tagDirective ..) | some .documentStart
      | some .documentEnd => return .absent
      | _ => node bound true false
    | _ => failure
  | some _ => node bound true false

end Composer

/-- The root of the only document that the tokens make up. -/
def Node.ofTokens? (tokens : List Token) : Option Node := do
  let (root, state) ←
    (Composer.document (3 * tokens.length + 3)).run ⟨tokens, [], Composer.standardHandles⟩
  if state.tokens.all (· == .documentEnd) then some root else none

end TenantStorage.Yaml
