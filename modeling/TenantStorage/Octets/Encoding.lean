import TenantStorage.Octets.Utf8

/-!
# Octets that tell their encoding

A byte order mark in front tells how the octets behind it stand for a text; octets without one are UTF-8.  The
mark is no part of the text.  Ill-formed parts become the replacement character.

* `Utf16.charsFrom` — the characters of UTF-16, with `none` for every ill-formed part.
* `Encoding` — the encodings that a byte order mark tells apart.
* `Encoding.detect` — the encoding that octets tell, and the octets behind the mark.
* `Encoding.textOf` — the text of octets.
-/

namespace TenantStorage

/-! ### UTF-16 -/

namespace Utf16

/-- Which octet of a unit comes first, the low or the high one. -/
inductive Order where
  | little
  | big
deriving DecidableEq, Repr

/-- The unit that two octets make. -/
def Order.unit : Order → UInt8 → UInt8 → Nat
  | .little, low, high => high.toNat * 0x100 + low.toNat
  | .big, high, low => high.toNat * 0x100 + low.toNat

/-- What a unit makes for which no leading surrogate waits: a character, the beginning of one, or an ill-formed
    part. -/
def first (unit : Nat) : List (Option Char) × Option Nat :=
  if unit < 0xd800 ∨ 0xe000 ≤ unit then ([some (Char.ofNat unit)], none)
  else if unit < 0xdc00 then ([], some unit)
  else ([none], none)

/-- Takes one unit.  The state is the leading surrogate that waits for its other half. -/
def step : Option Nat → Nat → List (Option Char) × Option Nat
  | none, unit => first unit
  | some lead, unit =>
    if 0xdc00 ≤ unit ∧ unit < 0xe000 then
      ([some (Char.ofNat (0x10000 + (lead - 0xd800) * 0x400 + (unit - 0xdc00)))], none)
    else
      let (found, lead) := first unit
      (none :: found, lead)

/-- The characters from a state to the end.  Whatever is not complete there is one ill-formed part. -/
def charsFrom (order : Order) : Option Nat → List UInt8 → List (Option Char)
  | none, [] => []
  | some _, [] => [none]
  | _, [_] => [none]
  | lead, a :: b :: rest =>
    let (found, lead) := step lead (order.unit a b)
    found ++ charsFrom order lead rest

/-- The text of octets, with the replacement character for ill-formed parts. -/
def decodeLossy (order : Order) (octets : List UInt8) : String :=
  String.ofList ((charsFrom order none octets).map (·.getD '\ufffd'))

end Utf16

/-! ### Byte order marks -/

/-- The encodings that a byte order mark tells apart. -/
inductive Encoding where
  | utf8
  | utf16 (order : Utf16.Order)
deriving DecidableEq, Repr

namespace Encoding

/-- The text that octets stand for. -/
def decodeLossy : Encoding → List UInt8 → String
  | .utf8 => Utf8.decodeLossy
  | .utf16 order => Utf16.decodeLossy order

/-- The encoding that octets tell, and the octets behind the mark. -/
def detect : List UInt8 → Encoding × List UInt8
  | 0xef :: 0xbb :: 0xbf :: rest => (.utf8, rest)
  | 0xff :: 0xfe :: rest => (.utf16 .little, rest)
  | 0xfe :: 0xff :: rest => (.utf16 .big, rest)
  | octets => (.utf8, octets)

/-- The text of octets. -/
def textOf (octets : List UInt8) : String :=
  let (encoding, rest) := detect octets
  encoding.decodeLossy rest

end Encoding

end TenantStorage
