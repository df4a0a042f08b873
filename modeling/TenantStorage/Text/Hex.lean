/-!
# Hexadecimal numerals

* `hexDigit` — the lower-case digit of a number below sixteen.
* `hex` — a number without leading zeros.
* `hexPair` — an octet as two digits.
* `hexValue?` — the value of a digit in either case.
-/

namespace TenantStorage.Text

/-- The lower-case digit of `n`, for `n` below sixteen. -/
def hexDigit (n : Nat) : Char :=
  if n < 10 then Char.ofNat (n + 48) else Char.ofNat (n + 87)

/-- The digits of `n` in base sixteen, without leading zeros. -/
def hexChars (n : Nat) : List Char :=
  if n < 16 then [hexDigit n] else hexChars (n / 16) ++ [hexDigit (n % 16)]

/-- The numeral of `n` in base sixteen, without leading zeros. -/
def hex (n : Nat) : String := String.ofList (hexChars n)

/-- The two lower-case digits of an octet. -/
def hexPair (octet : UInt8) : List Char :=
  [hexDigit (octet.toNat / 16), hexDigit (octet.toNat % 16)]

/-- The value of a hexadecimal digit. -/
def hexValue? (c : Char) : Option Nat :=
  if '0' ≤ c ∧ c ≤ '9' then some (c.toNat - 48)
  else if 'a' ≤ c ∧ c ≤ 'f' then some (c.toNat - 87)
  else if 'A' ≤ c ∧ c ≤ 'F' then some (c.toNat - 55)
  else none

end TenantStorage.Text
