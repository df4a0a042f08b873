import TenantStorage.Yaml.Scalar.Gap

/-!
# Plain scalars

A plain scalar ends at a comment, at a colon before white space, at a line that is indented less than
the scalar has to be, and at a line that starts or ends a document; inside brackets also at an
indicator of theirs.
-/

namespace TenantStorage.Yaml

/-- The characters that structure a flow collection. -/
def isFlowIndicator (c : Char) : Bool :=
  c == ',' || c == '[' || c == ']' || c == '\x7b' || c == '\x7d'

/-- A scalar that has been read. -/
structure Scanned where
  text : String
  /-- Where the scalar and the white space after it end. -/
  cursor : Cursor
  /-- Whether that white space goes over the end of a line. -/
  newLine : Bool
deriving DecidableEq, Repr

namespace Plain

/-- Whether a word after white space does not belong to the scalar any more. -/
def endsAt (flow : Bool) (margin : Nat) (mark : Mark) (cs : List Char) : Bool :=
  (!flow && mark.column < margin) || atBoundary mark cs || cs.head? == some '#'

/-- Reads on in a plain scalar: `text` holds what was read up to the gap, the latest character first.
    A tab must not stand for indentation, and a colon not before an indicator of brackets. -/
def read (flow : Bool) (margin : Nat) : List Char → Mark → (text : List Char) → Gap → Option Scanned
  | [], mark, text, gap => some ⟨String.ofList text.reverse, ⟨[], mark⟩, gap.broken⟩
  | c :: rest, mark, text, gap =>
    if isBlank c then
      if c == '\t' && gap.broken && mark.column < margin then none
      else read flow margin rest mark.next text (gap.blank c)
    else if isBreak c then
      read flow margin rest mark.nextLine text (gap.newline c)
    else if !gap.isEmpty && endsAt flow margin mark (c :: rest) then
      some ⟨String.ofList text.reverse, ⟨c :: rest, mark⟩, gap.broken⟩
    else if flow && c == ':' && rest.head?.any (fun d => isFlowIndicator d || d == '?') then none
    else if (c == ':' && endsWord rest) || (flow && isFlowIndicator c) then
      some ⟨String.ofList text.reverse, ⟨c :: rest, mark⟩, gap.broken⟩
    else read flow margin rest (mark.after c) (c :: (gap.fold.reverse ++ text)) .empty

/-- Reads the plain scalar at the cursor. -/
def scan (flow : Bool) (margin : Nat) (cursor : Cursor) : Option Scanned :=
  read flow margin cursor.rest cursor.mark [] .empty

end Plain

end TenantStorage.Yaml
