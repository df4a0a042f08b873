/-!
# Characters and positions of YAML

A document is read as a list of characters in which every line ends with one character.

* `isAllowed`, `isBlank`, `isBreak`, `isWord` — classes of characters.
* `lineFeeds` — carriage returns and next-line characters become line feeds.
* `Mark` — a position; `Cursor` — a position and the characters from there on.
-/

namespace TenantStorage.Yaml

/-! ### Characters -/

/-- Whether a document may hold the character: no control character but tab and line ends, and not
    one of the last two of the basic plane. -/
def isAllowed (c : Char) : Bool :=
  let n := c.toNat
  n == 0x09 || n == 0x0a || n == 0x0d || (0x20 ≤ n && n ≤ 0x7e) || n == 0x85 ||
    (0xa0 ≤ n && n ≤ 0xfffd) || 0x10000 ≤ n

/-- Space and tab. -/
def isBlank (c : Char) : Bool := c == ' ' || c == '\t'

/-- What ends a line, once carriage returns and next-line characters are line feeds. -/
def isBreak (c : Char) : Bool := c == '\n' || c == '\u2028' || c == '\u2029'

/-- Letters, digits, hyphen and underscore, which make up names. -/
def isWord (c : Char) : Bool := c.isAlphanum || c == '-' || c == '_'

/-- A carriage return, with or without a line feed after it, and a next-line character are line feeds. -/
def lineFeeds : List Char → List Char
  | [] => []
  | '\r' :: '\n' :: rest => '\n' :: lineFeeds rest
  | c :: rest => (if c == '\r' || c == '\u0085' then '\n' else c) :: lineFeeds rest

/-- Whether a word cannot go on here: at white space and at the end. -/
def endsWord : List Char → Bool
  | [] => true
  | c :: _ => isBlank c || isBreak c

/-! ### Positions -/

/-- A position: how many octets of UTF-8 stand before it in all, how many lines, and how many characters
    on its own line. -/
structure Mark where
  index : Nat
  line : Nat
  column : Nat
deriving DecidableEq, Repr, Inhabited

namespace Mark

/-- The position after a character of the same line. -/
def after (mark : Mark) (c : Char) : Mark :=
  { mark with index := mark.index + c.utf8Size, column := mark.column + 1 }

/-- The position after some characters of the same line. -/
def past (mark : Mark) (cs : List Char) : Mark := cs.foldl after mark

/-- The position some ASCII characters further on the same line. -/
def advance (mark : Mark) (n : Nat) : Mark :=
  { mark with index := mark.index + n, column := mark.column + n }

/-- The position one ASCII character further on the same line. -/
def next (mark : Mark) : Mark := mark.advance 1

/-- The position after a line end. -/
def nextLine (mark : Mark) : Mark := ⟨mark.index + 1, mark.line + 1, 0⟩

end Mark

/-- Whether a line that starts a document (`---`) or ends one (`...`) stands here. -/
def atMarker (sign : Char) (mark : Mark) : List Char → Bool
  | a :: b :: c :: rest => mark.column == 0 && a == sign && b == sign && c == sign && endsWord rest
  | _ => false

/-- Whether a line that starts or ends a document stands here. -/
def atBoundary (mark : Mark) (cs : List Char) : Bool := atMarker '-' mark cs || atMarker '.' mark cs

/-- A position and what follows it. -/
structure Cursor where
  rest : List Char
  mark : Mark
deriving DecidableEq, Repr, Inhabited

namespace Cursor

/-- The cursor some characters further on the same line. -/
def advance (cursor : Cursor) (n : Nat) : Cursor :=
  ⟨cursor.rest.drop n, cursor.mark.past (cursor.rest.take n)⟩

/-- The characters up to the first without a property, which no line end has, and the cursor after
    them. -/
def takeWhile (p : Char → Bool) (cursor : Cursor) : List Char × Cursor :=
  let taken := cursor.rest.takeWhile p
  (taken, ⟨cursor.rest.dropWhile p, cursor.mark.past taken⟩)

/-- The cursor after the blanks that stand here. -/
def dropBlanks (cursor : Cursor) : Cursor := (cursor.takeWhile isBlank).2

/-- The cursor at the end of the line, when at most blanks and a comment stand before that. -/
def endOfLine? (cursor : Cursor) : Option Cursor :=
  let cursor := cursor.dropBlanks
  let cursor :=
    if cursor.rest.head? == some '#' then (cursor.takeWhile (!isBreak ·)).2 else cursor
  match cursor.rest with
  | [] => some cursor
  | c :: rest => if isBreak c then some ⟨rest, cursor.mark.nextLine⟩ else none

end Cursor

end TenantStorage.Yaml
