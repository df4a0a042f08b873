/-!
# Letter case within ASCII

Identifiers, levels and states of the systems the library talks to are ASCII words, so case is
folded on the letters `A` to `Z` only; every other character stands for itself.

* `lower` — the text in lower case.
* `sameWord` — equality up to case.
* `occursIn` — whether one text occurs inside another.
-/

namespace TenantStorage.Text

/-- The lower-case form of `A` to `Z`; every other character stays. -/
def lowerChar (c : Char) : Char :=
  if 'A' ≤ c ∧ c ≤ 'Z' then Char.ofNat (c.toNat + 32) else c

/-- The text with `A` to `Z` in lower case. -/
def lower (text : String) : String := String.ofList (text.toList.map lowerChar)

/-- Equality up to the case of ASCII letters. -/
def sameWord (a b : String) : Bool := lower a == lower b

/-- Whether `part` occurs in `whole` at some position. -/
def occursIn (part : List Char) : List Char → Bool
  | [] => part.isEmpty
  | c :: rest => part.isPrefixOf (c :: rest) || occursIn part rest

/-- Whether `part` occurs in `whole` at some position. -/
def contains (whole part : String) : Bool := occursIn part.toList whole.toList

/-- Whether `whole` begins with `start`. -/
def startsWith (whole start : String) : Bool := start.toList.isPrefixOf whole.toList

end TenantStorage.Text
