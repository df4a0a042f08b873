import TenantStorage.Text.Hex

/-!
# Internet addresses

* `Address` — an IPv4 or IPv6 address.
* `Address.parse?` — the strict reader: decimal octets without leading zeros, hexadecimal groups of at
  most four digits, one `::`, an IPv4 tail in the last two groups, and nothing before or after.
* `Address.text` — the canonical form: lower case, no leading zeros, the first longest run of two or
  more zero groups as `::`, and an IPv4 tail for the IPv4-mapped addresses only.
* `Address.width` — the number of bits.
-/

namespace TenantStorage

/-- The four octets of an IPv4 address. -/
structure Address.V4 where
  a : UInt8
  b : UInt8
  c : UInt8
  d : UInt8
deriving DecidableEq, Repr, Inhabited

/-- The eight groups of sixteen bits of an IPv6 address. -/
structure Address.V6 where
  groups : List UInt16
  length_eq : groups.length = 8
deriving DecidableEq, Repr

/-- An internet address. -/
inductive Address where
  | v4 (octets : Address.V4)
  | v6 (groups : Address.V6)
deriving DecidableEq, Repr

namespace Address

instance : Inhabited Address := ⟨.v4 ⟨0, 0, 0, 0⟩⟩

/-- The number of bits, which is the longest prefix length that an address of the family can have. -/
def width : Address → Nat
  | v4 _ => 32
  | v6 _ => 128

/-! ### Writing -/

/-- Four decimal numbers between dots. -/
def V4.text (o : V4) : List Char :=
  Nat.toDigits 10 o.a.toNat ++ '.' :: Nat.toDigits 10 o.b.toNat ++ '.' ::
    Nat.toDigits 10 o.c.toNat ++ '.' :: Nat.toDigits 10 o.d.toNat

/-- The length of the run of zeros at the front. -/
def zerosAhead (groups : List UInt16) : Nat := (groups.takeWhile (· == 0)).length

/-- Where the first longest run of zeros begins, and its length. -/
def longestZeros : List UInt16 → Nat × Nat
  | [] => (0, 0)
  | g :: rest =>
    let (start, length) := longestZeros rest
    let here := zerosAhead (g :: rest)
    if length ≤ here then (0, here) else (start + 1, length)

/-- Groups between colons. -/
def joinGroups (groups : List UInt16) : List Char :=
  [':'].intercalate (groups.map fun g => Text.hexChars g.toNat)

/-- The address of four octets that sits in the last two groups. -/
def V4.ofGroups (high low : UInt16) : V4 :=
  ⟨(high >>> 8).toUInt8, high.toUInt8, (low >>> 8).toUInt8, low.toUInt8⟩

/-- The canonical form of eight groups. -/
def V6.text (address : V6) : List Char :=
  match address.groups with
  | [0, 0, 0, 0, 0, 0xffff, high, low] =>
    [':', ':', 'f', 'f', 'f', 'f', ':'] ++ (V4.ofGroups high low).text
  | groups =>
    let (start, length) := longestZeros groups
    if length ≤ 1 then joinGroups groups
    else joinGroups (groups.take start) ++ [':', ':'] ++ joinGroups (groups.drop (start + length))

/-- The canonical form. -/
def chars : Address → List Char
  | v4 octets => octets.text
  | v6 address => address.text

/-- The canonical form. -/
def text (address : Address) : String := String.ofList address.chars

/-! ### Reading -/

/-- The value of decimal digits. -/
def decimal (digits : List Char) : Nat :=
  digits.foldl (fun n c => 10 * n + (c.toNat - '0'.toNat)) 0

/-- A number up to 255 in one to three decimal digits, without a leading zero. -/
def readOctet (cs : List Char) : Option (UInt8 × List Char) :=
  let digits := cs.takeWhile Char.isDigit
  if digits.isEmpty || 3 < digits.length || (digits.head? == some '0' && 1 < digits.length) ||
      255 < decimal digits then none
  else some (UInt8.ofNat (decimal digits), cs.dropWhile Char.isDigit)

/-- An octet after a dot. -/
def readDotOctet : List Char → Option (UInt8 × List Char)
  | '.' :: rest => readOctet rest
  | _ => none

/-- Four octets between dots. -/
def readV4 (cs : List Char) : Option (V4 × List Char) := do
  let (a, cs) ← readOctet cs
  let (b, cs) ← readDotOctet cs
  let (c, cs) ← readDotOctet cs
  let (d, cs) ← readDotOctet cs
  return (⟨a, b, c, d⟩, cs)

/-- The value of hexadecimal digits. -/
def hexadecimal (digits : List Char) : Nat :=
  digits.foldl (fun n c => 16 * n + (Text.hexValue? c).getD 0) 0

/-- Whether a character is a hexadecimal digit. -/
def isHexDigit (c : Char) : Bool := (Text.hexValue? c).isSome

/-- A group of one to four hexadecimal digits. -/
def readGroup (cs : List Char) : Option (UInt16 × List Char) :=
  let digits := cs.takeWhile isHexDigit
  if digits.isEmpty || 4 < digits.length then none
  else some (UInt16.ofNat (hexadecimal digits), cs.dropWhile isHexDigit)

/-- What follows the colon in front of a group; the first group has none. -/
def afterColon (first : Bool) : List Char → Option (List Char)
  | cs@(c :: rest) => if first then some cs else if c = ':' then some rest else none
  | [] => if first then some [] else none

/-- Two groups from four octets. -/
def V4.groups (o : V4) : List UInt16 :=
  [o.a.toUInt16 <<< 8 ||| o.b.toUInt16, o.c.toUInt16 <<< 8 ||| o.d.toUInt16]

/-- As many groups as there are, up to a limit; four octets may stand for the last two of them.  Also tells
    whether octets did. -/
def readGroups : (limit : Nat) → (first : Bool) → List Char → List UInt16 × Bool × List Char
  | 0, _, cs => ([], false, cs)
  | limit + 1, first, cs =>
    match afterColon first cs with
    | none => ([], false, cs)
    | some body =>
      match if limit = 0 then none else readV4 body with
      | some (octets, rest) => (octets.groups, true, rest)
      | none =>
        match readGroup body with
        | none => ([], false, cs)
        | some (g, rest) =>
          let (groups, octets, rest) := readGroups limit false rest
          (g :: groups, octets, rest)

/-- Eight groups, if there are as many. -/
def V6.ofGroups? (groups : List UInt16) : Option V6 :=
  if h : groups.length = 8 then some ⟨groups, h⟩ else none

/-- Eight groups, or fewer around a `::` that stands for the missing ones, of which there is at
    least one. -/
def readV6 (cs : List Char) : Option (V6 × List Char) :=
  let (head, octets, rest) := readGroups 8 true cs
  if head.length = 8 then (V6.ofGroups? head).map fun address => (address, rest)
  else if octets then none
  else
    match rest with
    | ':' :: ':' :: rest =>
      let (tail, _, rest) := readGroups (7 - head.length) true rest
      let zeros := List.replicate (8 - head.length - tail.length) 0
      (V6.ofGroups? (head ++ zeros ++ tail)).map fun address => (address, rest)
    | _ => none

/-- Reads an address that is the whole of `cs`. -/
def parseChars? (cs : List Char) : Option Address :=
  match readV4 cs with
  | some (octets, rest) => if rest.isEmpty then some (v4 octets) else none
  | none =>
    match readV6 cs with
    | some (address, rest) => if rest.isEmpty then some (v6 address) else none
    | none => none

/-- Reads an address that is the whole of `text`. -/
def parse? (text : String) : Option Address := parseChars? text.toList

end Address

end TenantStorage
