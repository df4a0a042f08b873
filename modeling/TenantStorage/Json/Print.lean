import TenantStorage.Json.Token

/-!
# Writing JSON

Values are written without space, with the members of an object in their order.  In strings the quote, the
backslash and the ASCII control characters are escaped; all other characters stand for themselves.

* `Json.Token.chars` — one token.
* `Json.toTokens` — the tokens of a value.
* `Json.print` — the text of a value.
-/

namespace TenantStorage.Json

/-- How one character is written in a string. -/
def escapeChar (c : Char) : List Char :=
  match c with
  | '"' => ['\\', '"']
  | '\\' => ['\\', '\\']
  | '\n' => ['\\', 'n']
  | '\r' => ['\\', 'r']
  | '\t' => ['\\', 't']
  | '\x08' => ['\\', 'b']
  | '\x0c' => ['\\', 'f']
  | c => if c.toNat < 0x20 then ['\\', 'u', '0', '0'] ++ Text.hexPair (UInt8.ofNat c.toNat) else [c]

/-- A number as it was written. -/
def Number.chars (n : Number) : List Char :=
  (if n.negative then ['-'] else []) ++ Nat.toDigits 10 n.whole ++ n.tail.toList

/-- The characters of a token.  A string that could not be read is written as the empty string. -/
def Token.chars : Token → List Char
  | .openArray => ['[']
  | .closeArray => [']']
  | .openObject => ['{']
  | .closeObject => ['}']
  | .comma => [',']
  | .colon => [':']
  | .null => ['n', 'u', 'l', 'l']
  | .bool true => ['t', 'r', 'u', 'e']
  | .bool false => ['f', 'a', 'l', 's', 'e']
  | .number n => n.chars
  | .string s => '"' :: (s.getD "").toList.flatMap escapeChar ++ ['"']

mutual

/-- The tokens of a value. -/
def toTokens : Json → List Token
  | .null => [.null]
  | .bool b => [.bool b]
  | .number n => [.number n]
  | .string s => [.string s]
  | .array [] => [.openArray, .closeArray]
  | .array (item :: rest) => .openArray :: item.toTokens ++ restItems rest
  | .object [] => [.openObject, .closeObject]
  | .object ((key, value) :: rest) =>
    .openObject :: .string key :: .colon :: value.toTokens ++ restMembers rest

/-- The tokens of further items, and the end of the array. -/
def restItems : List Json → List Token
  | [] => [.closeArray]
  | item :: rest => .comma :: item.toTokens ++ restItems rest

/-- The tokens of further members, and the end of the object. -/
def restMembers : List (Text × Json) → List Token
  | [] => [.closeObject]
  | (key, value) :: rest => .comma :: .string key :: .colon :: value.toTokens ++ restMembers rest

end

/-- The text of a value. -/
def print (value : Json) : String :=
  String.ofList (value.toTokens.flatMap Token.chars)

end TenantStorage.Json
