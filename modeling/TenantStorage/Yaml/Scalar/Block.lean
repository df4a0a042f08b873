import TenantStorage.Yaml.Scalar.Plain
import TenantStorage.Yaml.Token

/-!
# Block scalars

The lines of a literal scalar (`|`) stay as they are; those of a folded one (`>`) are joined by
spaces, but for empty lines and lines that start with a blank.

* `Block.Header` — how the end is chomped, and the indentation if it is given.
* `Block.leadIn` — the empty lines and the indentation before a line with text.
* `Block.scan` — a whole scalar.
-/

namespace TenantStorage.Yaml.Block

/-- What becomes of the line ends at the end of a scalar. -/
inductive Chomping where
  | strip
  /-- The last line keeps its end, and the empty lines after it are dropped. -/
  | clip
  | keep
deriving DecidableEq, Repr

/-- What stands behind the sign of a block scalar. -/
structure Header where
  chomping : Chomping
  /-- The given indentation, from one to nine, or zero for none. -/
  increment : Nat
  /-- How many characters were read. -/
  width : Nat
deriving DecidableEq, Repr

/-- Whether a character tells how the end is chomped. -/
def chomping? : Char → Option Chomping
  | '+' => some .keep
  | '-' => some .strip
  | _ => none

/-- Reads a header, whose two parts may stand in either order.  A given indentation is not zero. -/
def Header.of? (cs : List Char) : Option Header :=
  match cs with
  | [] => some ⟨.clip, 0, 0⟩
  | a :: rest =>
    let b := rest.head?.getD ' '
    match chomping? a with
    | some chomping =>
      if b.isDigit then
        if b == '0' then none else some ⟨chomping, b.toNat - '0'.toNat, 2⟩
      else some ⟨chomping, 0, 1⟩
    | none =>
      if a.isDigit then
        if a == '0' then none
        else
          match chomping? b with
          | some chomping => some ⟨chomping, a.toNat - '0'.toNat, 2⟩
          | none => some ⟨.clip, a.toNat - '0'.toNat, 1⟩
      else some ⟨.clip, 0, 0⟩

/-! ### Indentation -/

/-- The empty lines before a line with text, and the start of that line. -/
structure LeadIn where
  /-- The ends of the empty lines, the latest first. -/
  breaks : List Char
  /-- The deepest indentation met. -/
  deepest : Nat
  cursor : Cursor
deriving DecidableEq, Repr

/-- Reads empty lines and the indentation after them: at most `limit` spaces a line, or all of them if
    the limit is zero.  A tab must not stand for indentation. -/
def leadIn (limit : Nat) : List Char → Mark → (deepest : Nat) → (breaks : List Char) → Option LeadIn
  | [], mark, deepest, breaks => some ⟨breaks, max deepest mark.column, ⟨[], mark⟩⟩
  | c :: rest, mark, deepest, breaks =>
    let indented := limit = 0 ∨ mark.column < limit
    if indented ∧ c = ' ' then leadIn limit rest mark.next deepest breaks
    else if indented ∧ c = '\t' then none
    else if isBreak c then
      leadIn limit rest mark.nextLine (max deepest mark.column) (c :: breaks)
    else some ⟨breaks, max deepest mark.column, ⟨c :: rest, mark⟩⟩

theorem length_le_of_leadIn {limit deepest : Nat} {cs breaks : List Char} {mark : Mark} {lead : LeadIn}
    (h : leadIn limit cs mark deepest breaks = some lead) : lead.cursor.rest.length ≤ cs.length := by
  fun_induction leadIn limit cs mark deepest breaks with
  | case1 => cases h; simp
  | case2 _ _ _ _ _ _ _ ih => exact Nat.le_succ_of_le (ih h)
  | case3 => simp at h
  | case4 _ _ _ _ _ _ _ _ _ ih => exact Nat.le_succ_of_le (ih h)
  | case5 => cases h; simp

/-! ### Lines -/

/-- What has been read of a scalar.  Lists have the latest character first. -/
structure Body where
  text : List Char
  /-- The end of the last line with text. -/
  last : Option Char
  /-- The ends of the empty lines after it. -/
  breaks : List Char
  /-- Whether the last line with text starts with a blank. -/
  inset : Bool
deriving DecidableEq, Repr

/-- The text up to the next line, which starts with a blank or not: in a folded scalar the end of a line
    is dropped before an empty line and is a space otherwise, unless one of the lines around it starts
    with a blank. -/
def Body.joined (body : Body) (folded inset : Bool) : List Char :=
  let lineEnd :=
    if folded && body.last == some '\n' && !body.inset && !inset then
      if body.breaks.isEmpty then [' '] else []
    else body.last.toList
  body.breaks ++ (lineEnd ++ body.text)

/-- The whole text. -/
def Body.chomped (body : Body) : Chomping → List Char
  | .strip => body.text
  | .clip => body.last.toList ++ body.text
  | .keep => body.breaks ++ (body.last.toList ++ body.text)

/-- Reads lines as long as they are indented by `indent`. -/
def lines (folded : Bool) (indent : Nat) (cs : List Char) (mark : Mark) (body : Body) :
    Option (Body × Cursor) :=
  match cs with
  | [] => some (body, ⟨[], mark⟩)
  | c :: tail =>
    if mark.column ≠ indent then some (body, ⟨c :: tail, mark⟩)
    else
      let line := (c :: tail).takeWhile (!isBreak ·)
      let text := line.reverse ++ body.joined folded (isBlank c)
      let mark := mark.past line
      match _ : (c :: tail).dropWhile (!isBreak ·) with
      | [] => some (⟨text, none, [], isBlank c⟩, ⟨[], mark⟩)
      | b :: rest =>
        match _ : leadIn indent rest mark.nextLine 0 [] with
        | none => none
        | some lead =>
          lines folded indent lead.cursor.rest lead.cursor.mark ⟨text, some b, lead.breaks, isBlank c⟩
termination_by cs.length
decreasing_by
  rename_i hrest hlead
  have hle := length_le_of_leadIn hlead
  have hdrop := (List.dropWhile_suffix (fun x => !isBreak x) (l := c :: tail)).length_le
  rw [hrest] at hdrop
  simp only [List.length_cons] at hdrop ⊢
  omega

/-- Reads the block scalar at the cursor, which stands at its sign; `margin` is the least indentation
    its lines may have. -/
def scan (style : Style) (margin : Nat) (cursor : Cursor) : Option Scanned := do
  let cursor := cursor.advance 1
  let header ← Header.of? cursor.rest
  let cursor ← (cursor.advance header.width).endOfLine?
  let given := if header.increment = 0 then 0 else margin - 1 + header.increment
  let lead ← leadIn given cursor.rest cursor.mark 0 []
  let indent := if given = 0 then max lead.deepest (max margin 1) else given
  let (body, cursor) ←
    lines (style = .folded) indent lead.cursor.rest lead.cursor.mark ⟨[], none, lead.breaks, false⟩
  return ⟨String.ofList (body.chomped header.chomping).reverse, cursor, true⟩

end TenantStorage.Yaml.Block
