import TenantStorage.Json.Token

/-!
# Limits of JSON values

A value of any shape is kept only within limits: its numbers are in the range of 64-bit floating point, its
strings are text, and its arrays and objects stand inside each other on no more than some levels.

* `Json.Number.isFinite` — the range of numbers.
* `Json.fits` — all limits, with the number of levels as a parameter.
* `Json.deepest` — how many levels a whole input may have.
-/

namespace TenantStorage.Json

/-! ### Numbers -/

namespace Number

/-- The digits between the point and the exponent. -/
def fraction (n : Number) : List Char := (n.tail.toList.dropWhile (· == '.')).takeWhile Char.isDigit

/-- The digits of the number without the point. -/
def significand (n : Number) : Nat :=
  n.fraction.foldl (fun m c => 10 * m + (c.toNat - '0'.toNat)) n.whole

/-- The exponent as it is written, or zero. -/
def exponent (n : Number) : Int :=
  match (n.tail.toList.dropWhile fun c => c == '.' || c.isDigit).drop 1 with
  | '-' :: digits => -(decimal digits : Int)
  | '+' :: digits => decimal digits
  | digits => decimal digits

/-- The power of ten by which the significand is multiplied. -/
def scale (n : Number) : Int := n.exponent - n.fraction.length

/-- The least number that is rounded to infinity, half a unit in the last place above the range. -/
def unbounded : Nat := (1 <<< 1024) - (1 <<< 970)

/-- Whether the number, rounded to 64-bit floating point, is finite.  Numbers of at most 308 digits before
    the point are, those of more than 309 are not. -/
def isFinite (n : Number) : Bool :=
  let size : Int := n.significand.repr.length + n.scale
  if n.significand = 0 ∨ size ≤ 308 then true
  else if 309 < size then false
  else match n.scale with
    | .ofNat k => n.significand * Nat.pow 10 k < unbounded
    | .negSucc k => n.significand < unbounded * Nat.pow 10 (k + 1)

end Number

/-! ### Values -/

mutual

/-- Whether a value keeps the limits, on at most so many levels. -/
def fits (levels : Nat) : Json → Bool
  | .number n => n.isFinite
  | .string text => text.isSome
  | .array items => 0 < levels && itemsFit (levels - 1) items
  | .object members => 0 < levels && membersFit (levels - 1) members
  | _ => true

def itemsFit (levels : Nat) : List Json → Bool
  | [] => true
  | item :: rest => item.fits levels && itemsFit levels rest

def membersFit (levels : Nat) : List (Text × Json) → Bool
  | [] => true
  | (key, value) :: rest => key.isSome && (value.fits levels && membersFit levels rest)

end

/-- How many levels a whole input may have. -/
def deepest : Nat := 127

end TenantStorage.Json
