import TenantStorage.Octets.Utf8
import TenantStorage.Text.Hex
import TenantStorage.Yaml.Cursor
import TenantStorage.Yaml.Token

/-!
# Anchors, tags and directives

* `Property.name?` — the name of an anchor or of a reference to one.
* `Property.tag?` — a tag: in full as `!<…>`, or a handle and a suffix.
* `Property.directive?` — a line such as `%YAML 1.2` or `%TAG !e! tag:example,2000:`.
-/

namespace TenantStorage.Yaml.Property

/-- The name behind the sign at the cursor; it ends at white space or at an indicator. -/
def name? (cursor : Cursor) : Option (String × Cursor) :=
  let (name, cursor) := (cursor.advance 1).takeWhile isWord
  let ends := endsWord cursor.rest ||
    cursor.rest.head?.any fun c =>
      c == '?' || c == ':' || c == ',' || c == ']' || c == '\x7d' || c == '%' || c == '@' || c == '\x60'
  if name.isEmpty || !ends then none else some (String.ofList name, cursor)

/-! ### Tags -/

/-- The characters of a tag.  Those that structure a flow collection may only stand in a tag that is
    written in full, or in the start that a directive gives. -/
def isTagChar (full : Bool) (c : Char) : Bool :=
  isWord c || [';', '/', '?', ':', '@', '&', '=', '+', '$', '.', '!', '~', '*', '\'', '(', ')'].contains c
    || (full && [',', '[', ']'].contains c)

/-- How many octets follow the first octet of a character. -/
def following? (octet : Nat) : Option Nat :=
  if octet < 0x80 then some 0
  else if octet / 0x20 = 6 then some 1
  else if octet / 0x10 = 14 then some 2
  else if octet / 0x08 = 30 then some 3
  else none

/-- The characters of a tag, as octets, and what follows them.  An escape gives an octet; escapes
    for the octets of one character have to stand in a row, and `left` of them are missing. -/
def octets? (full : Bool) : (left : Nat) → List Char → Option (List UInt8 × List Char)
  | left, '%' :: a :: b :: rest => do
    let octet := 16 * (← Text.hexValue? a) + (← Text.hexValue? b)
    let left ←
      if left = 0 then following? octet
      else if octet / 0x40 = 2 then some (left - 1)
      else none
    let (octets, rest) ← octets? full left rest
    return (UInt8.ofNat octet :: octets, rest)
  | left, c :: rest =>
    if left ≠ 0 || c == '%' then none
    else if isTagChar full c then
      (octets? full 0 rest).map fun (octets, rest) => (UInt8.ofNat c.toNat :: octets, rest)
    else some ([], c :: rest)
  | left, [] => if left = 0 then some ([], []) else none

/-- Reads the characters of a tag at the cursor. -/
def uri? (full : Bool) (cursor : Cursor) : Option (List UInt8 × Cursor) :=
  (octets? full 0 cursor.rest).map fun (octets, rest) =>
    (octets, ⟨rest, cursor.mark.advance (cursor.rest.length - rest.length)⟩)

/-- Reads `!name!`, or `!name` if there is no second exclamation mark. -/
def handle? (cursor : Cursor) : Option (List Char × Cursor) :=
  if cursor.rest.head? != some '!' then none
  else
    let (name, cursor) := (cursor.advance 1).takeWhile isWord
    if cursor.rest.head? == some '!' then some ('!' :: name ++ ['!'], cursor.advance 1)
    else some ('!' :: name, cursor)

/-- Whether a handle is closed by a second exclamation mark. -/
def isClosed (handle : List Char) : Bool := 1 < handle.length && handle.getLast? == some '!'

/-- Reads the tag at the cursor, up to white space, or up to a comma inside brackets.  A lone exclamation
    mark is a tag of its own. -/
def tag? (flow : Bool) (cursor : Cursor) : Option (Token × Cursor) := do
  let (token, cursor) ←
    if cursor.rest[1]? == some '<' then do
      let (suffix, cursor) ← uri? true (cursor.advance 2)
      if suffix.isEmpty || cursor.rest.head? != some '>' then none
      else some (Token.tag "" suffix, cursor.advance 1)
    else do
      let (handle, cursor) ← handle? cursor
      let (suffix, cursor) ← uri? false cursor
      if isClosed handle then
        if suffix.isEmpty then none else some (Token.tag (String.ofList handle) suffix, cursor)
      else
        match Utf8.encodeChars handle.tail ++ suffix with
        | [] => some (Token.tag "" (Utf8.encode "!"), cursor)
        | suffix => some (Token.tag "!" suffix, cursor)
  if endsWord cursor.rest || (flow && cursor.rest.head? == some ',') then some (token, cursor)
  else none

/-! ### Directives -/

/-- A number of at most nine digits. -/
def number? (cursor : Cursor) : Option (Nat × Cursor) :=
  let (digits, cursor) := cursor.takeWhile Char.isDigit
  if digits.isEmpty || 9 < digits.length then none
  else some (digits.foldl (fun n c => 10 * n + (c.toNat - '0'.toNat)) 0, cursor)

/-- What follows `%YAML`. -/
def version? (cursor : Cursor) : Option (Token × Cursor) := do
  let (major, cursor) ← number? cursor.dropBlanks
  if cursor.rest.head? != some '.' then none
  else
    let (minor, cursor) ← number? (cursor.advance 1)
    some (.versionDirective major minor, cursor)

/-- What follows `%TAG`. -/
def tagStart? (cursor : Cursor) : Option (Token × Cursor) := do
  let (handle, cursor) ← handle? cursor.dropBlanks
  if 1 < handle.length && !isClosed handle then none
  else if !cursor.rest.head?.any isBlank then none
  else
    let (start, cursor) ← uri? true cursor.dropBlanks
    if start.isEmpty || !endsWord cursor.rest then none
    else some (.tagDirective (String.ofList handle) start, cursor)

/-- Reads the directive at the cursor, with the end of its line. -/
def directive? (cursor : Cursor) : Option (Token × Cursor) := do
  let (name, cursor) := (cursor.advance 1).takeWhile isWord
  if !endsWord cursor.rest then none
  else
    let (token, cursor) ←
      if name = "YAML".toList then version? cursor
      else if name = "TAG".toList then tagStart? cursor
      else none
    some (token, ← cursor.endOfLine?)

end TenantStorage.Yaml.Property
