import TenantStorage.Octets.Utf8
import TenantStorage.Text.Hex

/-!
# Percent encoding

An octet is written as `%` and two upper-case hexadecimal digits unless it is an ASCII character that
the place allows to stand for itself.

* `Percent.encode` — with a set of characters that stand for themselves.
* `Percent.component` — for a single path segment; `Percent.form` — for names and values of a query.
* `Percent.decode` — the octets of an encoded text.
-/

namespace TenantStorage.Percent

/-- An upper-case hexadecimal digit. -/
def hexDigit (n : Nat) : Char := if n < 10 then Char.ofNat (n + 48) else Char.ofNat (n + 55)

/-- An octet by its number. -/
def encodeOctet (octet : UInt8) : List Char :=
  ['%', hexDigit (octet.toNat / 16), hexDigit (octet.toNat % 16)]

/-- A character, as itself or as its octets. -/
def encodeChar (keep : Char → Bool) (c : Char) : List Char :=
  if keep c then [c] else (Utf8.encodeChar c).flatMap encodeOctet

/-- The characters with all but those in `keep` encoded. -/
def encode (keep : Char → Bool) (cs : List Char) : List Char := cs.flatMap (encodeChar keep)

/-- Letters, digits and the marks that never have a meaning of their own in a URL. -/
def isUnreserved (c : Char) : Bool :=
  c.isAlphanum || c == '-' || c == '_' || c == '.' || c == '~'

/-- A text as a part of a path. -/
def component (text : String) : String := String.ofList (encode isUnreserved text.toList)

/-- Characters that stand for themselves in a form. -/
def isFormChar (c : Char) : Bool :=
  c.isAlphanum || c == '*' || c == '-' || c == '.' || c == '_'

/-- A text as a name or a value of a form; the space is written as `+`. -/
def form (text : String) : List Char :=
  text.toList.flatMap fun c => if c == ' ' then ['+'] else encodeChar isFormChar c

/-- The octets of an encoded text; a `%` without two digits stands for itself. -/
def decode : List Char → List UInt8
  | '%' :: a :: b :: rest =>
    match Text.hexValue? a, Text.hexValue? b with
    | some high, some low => UInt8.ofNat (16 * high + low) :: decode rest
    | _, _ => Utf8.encodeChar '%' ++ decode (a :: b :: rest)
  | c :: rest => Utf8.encodeChar c ++ decode rest
  | [] => []

end TenantStorage.Percent
