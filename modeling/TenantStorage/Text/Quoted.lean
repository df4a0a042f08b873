import TenantStorage.Text.Hex
import TenantStorage.Text.Hidden

/-!
# Texts in quotes

A quoted text can be read in a log line without doubt about where it ends or what it holds: the
quote and the backslash are escaped, line breaks and tabs have their short escapes, and
characters without a shape of their own are spelled by number.

* `quote` — the quoted form.
-/

namespace TenantStorage.Text

/-- How one character is written between quotes. -/
def quoteChar (c : Char) : List Char :=
  match c with
  | '"' => ['\\', '"']
  | '\\' => ['\\', '\\']
  | '\n' => ['\\', 'n']
  | '\r' => ['\\', 'r']
  | '\t' => ['\\', 't']
  | '\x00' => ['\\', '0']
  | c => if isHidden c then ['\\', 'u', '\x7b'] ++ hexChars c.toNat ++ ['\x7d'] else [c]

/-- The text between quotes, with everything escaped that could be misread. -/
def quote (text : String) : String :=
  String.ofList ('"' :: text.toList.flatMap quoteChar ++ ['"'])

end TenantStorage.Text
