/-!
# YAML tokens

* `Style` — how a scalar is written.
* `Token` — what a document consists of.  Nested blocks, which are written by indentation alone, have
  tokens for their start and their end.
-/

namespace TenantStorage.Yaml

/-- How a scalar is written. -/
inductive Style where
  | plain
  | singleQuoted
  | doubleQuoted
  | literal
  | folded
deriving DecidableEq, Repr, Inhabited

/-- A part of a document.  Tags are octets because they may be written with escapes for octets. -/
inductive Token where
  | versionDirective (major minor : Nat)
  | tagDirective (handle : String) (start : List UInt8)
  | documentStart
  | documentEnd
  | blockSequenceStart
  | blockMappingStart
  | blockEnd
  | flowSequenceStart
  | flowSequenceEnd
  | flowMappingStart
  | flowMappingEnd
  | blockEntry
  | flowEntry
  | key
  | value
  | anchor (name : String)
  /-- Stands for the node that has the anchor of this name. -/
  | reference (name : String)
  /-- A tag; an empty handle stands before a tag that is written in full. -/
  | tag (handle : String) (suffix : List UInt8)
  | scalar (style : Style) (text : String)
deriving DecidableEq, Repr, Inhabited

end TenantStorage.Yaml
