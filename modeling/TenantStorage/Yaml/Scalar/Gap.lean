import TenantStorage.Yaml.Cursor

/-!
# White space inside flow scalars

A plain or quoted scalar may go on over several lines.  A `Gap` is the white space between two of its
words.

* `Gap.fold` — what the white space stands for: blanks within a line stay; of the line ends the
  first is a space when it stands alone, and is dropped when empty lines follow it.
-/

namespace TenantStorage.Yaml

/-- White space that is being read.  Lists have the latest character first. -/
structure Gap where
  /-- The blanks, as long as no line has ended. -/
  blanks : List Char
  /-- Whether a line has ended. -/
  broken : Bool
  /-- The first line end, unless it was escaped. -/
  first : Option Char
  /-- The line ends after the first. -/
  more : List Char
deriving DecidableEq, Repr

namespace Gap

/-- No white space. -/
def empty : Gap := ⟨[], false, none, []⟩

/-- The gap after an escaped line end. -/
def escaped : Gap := ⟨[], true, none, []⟩

instance : Inhabited Gap := ⟨empty⟩

/-- Whether there is any white space. -/
def isEmpty (gap : Gap) : Bool := !gap.broken && gap.blanks.isEmpty

/-- The gap with one more blank, which counts on the first line only. -/
def blank (gap : Gap) (c : Char) : Gap :=
  if gap.broken then gap else { gap with blanks := c :: gap.blanks }

/-- The gap with one more line end. -/
def newline (gap : Gap) (c : Char) : Gap :=
  if gap.broken then { gap with more := c :: gap.more } else ⟨[], true, some c, []⟩

/-- What the white space stands for. -/
def fold (gap : Gap) : List Char :=
  if gap.broken then
    match gap.first with
    | some '\n' => if gap.more.isEmpty then [' '] else gap.more.reverse
    | some c => c :: gap.more.reverse
    | none => gap.more.reverse
  else gap.blanks.reverse

end Gap

end TenantStorage.Yaml
