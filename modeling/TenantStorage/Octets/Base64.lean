/-!
# Base64

The standard alphabet with padding.  Every sequence of octets has one written form and only that form is
read: complete groups of four, padding exactly where the last group is short, and no bits left over.

* `Base64.encode` — the written form.
* `Base64.decode?` — the octets of a written form.
-/

namespace TenantStorage.Base64

/-- The character of six bits. -/
def char (n : Nat) : Char :=
  if n < 26 then Char.ofNat (n + 65)
  else if n < 52 then Char.ofNat (n + 71)
  else if n < 62 then Char.ofNat (n - 4)
  else if n = 62 then '+' else '/'

/-- The six bits of a character. -/
def value? (c : Char) : Option Nat :=
  if 'A' ≤ c ∧ c ≤ 'Z' then some (c.toNat - 65)
  else if 'a' ≤ c ∧ c ≤ 'z' then some (c.toNat - 71)
  else if '0' ≤ c ∧ c ≤ '9' then some (c.toNat + 4)
  else if c = '+' then some 62
  else if c = '/' then some 63
  else none

/-- The written form, as characters. -/
def encodeOctets : List UInt8 → List Char
  | [] => []
  | [a] => [char (a.toNat / 4), char (a.toNat % 4 * 16), '=', '=']
  | [a, b] =>
    [char (a.toNat / 4), char (a.toNat % 4 * 16 + b.toNat / 16), char (b.toNat % 16 * 4), '=']
  | a :: b :: c :: rest =>
    char (a.toNat / 4) :: char (a.toNat % 4 * 16 + b.toNat / 16) ::
      char (b.toNat % 16 * 4 + c.toNat / 64) :: char (c.toNat % 64) :: encodeOctets rest

/-- The written form. -/
def encode (octets : List UInt8) : String := String.ofList (encodeOctets octets)

/-- Reads the last group, which has one or two octets and no bits left over. -/
def decodeLast? (a b c : Char) : Option (List UInt8) := do
  let a ← value? a
  let b ← value? b
  if c = '=' then
    if b % 16 = 0 then return [UInt8.ofNat (a * 4 + b / 16)] else none
  else
    let c ← value? c
    if c % 4 = 0 then return [UInt8.ofNat (a * 4 + b / 16), UInt8.ofNat (b % 16 * 16 + c / 4)]
    else none

/-- Reads characters. -/
def decodeChars? : List Char → Option (List UInt8)
  | [] => some []
  | a :: b :: c :: d :: rest =>
    if d = '=' then if rest.isEmpty then decodeLast? a b c else none
    else do
      let a ← value? a
      let b ← value? b
      let c ← value? c
      let d ← value? d
      let octets ← decodeChars? rest
      return UInt8.ofNat (a * 4 + b / 16) :: UInt8.ofNat (b % 16 * 16 + c / 4) ::
        UInt8.ofNat (c % 4 * 64 + d) :: octets
  | _ => none

/-- Reads a written form. -/
def decode? (text : String) : Option (List UInt8) := decodeChars? text.toList

end TenantStorage.Base64
