/-!
# UTF-8

The decoder takes one octet at a time.  An octet that cannot go on with the character begun before it ends that
character as an ill-formed part and is looked at afresh, so every ill-formed part is as long as it can
be while still being the beginning of some character.

* `Utf8.encode` — the octets of a text.
* `Utf8.units` — the characters of octets, with `none` for every ill-formed part.
* `Utf8.decode?` — the text, if no part is ill-formed; `Utf8.decodeLossy` — with U+FFFD for them.
* `Utf8.fault?` — where the first ill-formed part begins, and its length unless the input ends in it.
-/

namespace TenantStorage.Utf8

/-! ### Encoding -/

/-- The octets of a character. -/
def encodeChar (c : Char) : List UInt8 :=
  let n := c.toNat
  let tail (place : Nat) : UInt8 := UInt8.ofNat (0x80 + n / place % 64)
  if n < 0x80 then [UInt8.ofNat n]
  else if n < 0x800 then [UInt8.ofNat (0xc0 + n / 64), tail 1]
  else if n < 0x10000 then [UInt8.ofNat (0xe0 + n / 0x1000), tail 0x40, tail 1]
  else [UInt8.ofNat (0xf0 + n / 0x40000), tail 0x1000, tail 0x40, tail 1]

/-- The octets of characters. -/
def encodeChars (cs : List Char) : List UInt8 := cs.flatMap encodeChar

/-- The octets of a text. -/
def encode (text : String) : List UInt8 := encodeChars text.toList

/-! ### Decoding -/

/-- Where the decoder stands: between characters, or within one of which `left` octets are missing, the
    next of them from `low` to `high`. -/
inductive State where
  | between
  | within (low high : Nat) (left value : Nat)
deriving DecidableEq, Repr

/-- What an octet between characters makes: a character, the beginning of one, or an ill-formed part. -/
def first (octet : Nat) : List (Option Char) × State :=
  if octet < 0x80 then ([some (Char.ofNat octet)], .between)
  else if octet < 0xc2 then ([none], .between)
  else if octet < 0xe0 then ([], .within 0x80 0xbf 1 (octet - 0xc0))
  else if octet = 0xe0 then ([], .within 0xa0 0xbf 2 0)
  else if octet = 0xed then ([], .within 0x80 0x9f 2 0xd)
  else if octet < 0xf0 then ([], .within 0x80 0xbf 2 (octet - 0xe0))
  else if octet = 0xf0 then ([], .within 0x90 0xbf 3 0)
  else if octet < 0xf4 then ([], .within 0x80 0xbf 3 (octet - 0xf0))
  else if octet = 0xf4 then ([], .within 0x80 0x8f 3 4)
  else ([none], .between)

/-- Takes one octet. -/
def step : State → Nat → List (Option Char) × State
  | .between, octet => first octet
  | .within low high left value, octet =>
    if low ≤ octet ∧ octet ≤ high then
      let value := value * 64 + (octet - 0x80)
      if left ≤ 1 then ([some (Char.ofNat value)], .between)
      else ([], .within 0x80 0xbf (left - 1) value)
    else
      let (found, state) := first octet
      (none :: found, state)

/-- The units from a state to the end; a character that is not complete there is an ill-formed part. -/
def unitsFrom : State → List UInt8 → List (Option Char)
  | .between, [] => []
  | .within .., [] => [none]
  | state, octet :: rest =>
    let (found, state) := step state octet.toNat
    found ++ unitsFrom state rest

/-- The characters of octets, with `none` for every ill-formed part. -/
def units (octets : List UInt8) : List (Option Char) := unitsFrom .between octets

/-- The text of octets without ill-formed parts. -/
def decode? (octets : List UInt8) : Option String := ((units octets).mapM id).map String.ofList

/-- The text of octets, with the replacement character for ill-formed parts. -/
def decodeLossy (octets : List UInt8) : String :=
  String.ofList ((units octets).map (·.getD '\ufffd'))

/-! ### Faults -/

/-- Where the first ill-formed part begins, and its length; without a length when the input ends inside a
    character.  The character that is being read began at `start`, and `position` octets have been read. -/
def faultFrom : State → (start position : Nat) → List UInt8 → Option (Nat × Option Nat)
  | .between, _, _, [] => none
  | .within .., start, _, [] => some (start, none)
  | .between, _, position, octet :: rest =>
    match first octet.toNat with
    | ([none], _) => some (position, some 1)
    | (_, state) => faultFrom state position (position + 1) rest
  | .within low high left value, start, position, octet :: rest =>
    match step (.within low high left value) octet.toNat with
    | (none :: _, _) => some (start, some (position - start))
    | (_, state) => faultFrom state start (position + 1) rest

/-- The first ill-formed part: where it begins, and its length unless the input ends in it. -/
def fault? (octets : List UInt8) : Option (Nat × Option Nat) := faultFrom .between 0 0 octets

/-- A fault in words. -/
def faultText : Nat × Option Nat → String
  | (start, some length) =>
    "invalid utf-8 sequence of " ++ length.repr ++ " bytes from index " ++ start.repr
  | (start, none) => "incomplete utf-8 byte sequence from index " ++ start.repr

end TenantStorage.Utf8
