import TenantStorage.Json.Basic
import TenantStorage.Text.Hex

/-!
# JSON tokens

The scanner is a machine that takes one unit of the input at a time.  A unit is a character or,
where the input is not UTF-8, an octet that is no part of a character.

* `Json.Token` — punctuation and scalars.
* `Json.Scan.step` — one unit.
* `Json.tokens?` — the tokens of a whole input.
-/

namespace TenantStorage.Json

/-- Characters, with `none` for an octet that is no part of a character. -/
abbrev Units := List (Option Char)

/-- The units of a text. -/
def Units.ofString (text : String) : Units := text.toList.map some

/-- Punctuation and scalars. -/
inductive Token where
  | openArray
  | closeArray
  | openObject
  | closeObject
  | comma
  | colon
  | null
  | bool (value : Bool)
  | number (value : Number)
  | string (value : Text)
deriving DecidableEq, Repr, Inhabited

/-! ### Strings -/

/-- A part of a written string. -/
inductive Piece where
  | char (c : Char)
  /-- A UTF-16 unit, from an escape by number. -/
  | unit (n : Nat)
  /-- An octet that is no part of a character. -/
  | octet
deriving DecidableEq, Repr

/-- The characters of a string; a high and a low surrogate in a row make one character, and every other
    surrogate or stray octet makes the string unreadable. -/
def charsOf : List Piece → Option (List Char)
  | [] => some []
  | .char c :: rest => (charsOf rest).map (c :: ·)
  | .octet :: _ => none
  | .unit n :: rest =>
    if 0xd800 ≤ n ∧ n < 0xdc00 then
      match rest with
      | .unit m :: rest =>
        if 0xdc00 ≤ m ∧ m < 0xe000 then
          (charsOf rest).map (Char.ofNat (0x10000 + (n - 0xd800) * 0x400 + (m - 0xdc00)) :: ·)
        else none
      | _ => none
    else if 0xdc00 ≤ n ∧ n < 0xe000 then none
    else (charsOf rest).map (Char.ofNat n :: ·)

/-- The string that a list of pieces stands for. -/
def textOf (pieces : List Piece) : Text := (charsOf pieces).map String.ofList

/-- The character of an escape by letter. -/
def escaped? : Char → Option Char
  | '"' => some '"'
  | '\\' => some '\\'
  | '/' => some '/'
  | 'b' => some '\x08'
  | 'f' => some '\x0c'
  | 'n' => some '\n'
  | 'r' => some '\r'
  | 't' => some '\t'
  | _ => none

/-! ### Numbers -/

/-- The value of decimal digits. -/
def decimal (digits : List Char) : Nat :=
  digits.foldl (fun n c => 10 * n + (c.toNat - '0'.toNat)) 0

/-- One or more digits at the front, dropped. -/
def dropDigits? (cs : List Char) : Option (List Char) :=
  if (cs.takeWhile Char.isDigit).isEmpty then none else some (cs.dropWhile Char.isDigit)

/-- An exponent, or nothing, up to the end. -/
def isExponent : List Char → Bool
  | [] => true
  | e :: cs =>
    let digits := match cs with
      | '+' :: rest => rest
      | '-' :: rest => rest
      | _ => cs
    (e == 'e' || e == 'E') && dropDigits? digits == some []

/-- A fraction and an exponent, each of which may be missing, up to the end. -/
def isTail : List Char → Bool
  | '.' :: cs =>
    match dropDigits? cs with
    | some rest => isExponent rest
    | none => false
  | cs => isExponent cs

/-- Reads a number without its sign: digits without a superfluous leading zero, then the tail. -/
def unsigned? (negative : Bool) (cs : List Char) : Option Number :=
  let digits := cs.takeWhile Char.isDigit
  let tail := cs.dropWhile Char.isDigit
  if digits.isEmpty || (digits.head? == some '0' && 1 < digits.length) || !isTail tail then none
  else some ⟨negative, decimal digits, String.ofList tail⟩

/-- Reads a number that is the whole of `cs`. -/
def number? : List Char → Option Number
  | '-' :: cs => unsigned? true cs
  | cs => unsigned? false cs

/-! ### The machine -/

/-- Where the scanner stands.  Collected parts are in reverse. -/
inductive Scan where
  | idle
  | number (chars : List Char)
  | word (chars : List Char)
  | string (pieces : List Piece)
  | escape (pieces : List Piece)
  | hex (pieces : List Piece) (digits value : Nat)
deriving DecidableEq, Repr

namespace Scan

/-- Characters that may stand between tokens. -/
def isSpace (c : Char) : Bool := c == ' ' || c == '\t' || c == '\n' || c == '\r'

/-- Characters of which numbers consist. -/
def isNumeric (c : Char) : Bool :=
  c.isDigit || c == '-' || c == '+' || c == '.' || c == 'e' || c == 'E'

/-- The token that a complete word stands for. -/
def word? : List Char → Option Token
  | ['n', 'u', 'l', 'l'] => some .null
  | ['t', 'r', 'u', 'e'] => some (.bool true)
  | ['f', 'a', 'l', 's', 'e'] => some (.bool false)
  | _ => none

/-- The tokens, none or one, that a character between tokens makes, and where the scanner goes. -/
def start (c : Char) : Option (List Token × Scan) :=
  if isSpace c then some ([], idle)
  else if c.isDigit || c == '-' then some ([], number [c])
  else if c.isLower then some ([], word [c])
  else match c with
    | '"' => some ([], string [])
    | '[' => some ([.openArray], idle)
    | ']' => some ([.closeArray], idle)
    | '{' => some ([.openObject], idle)
    | '}' => some ([.closeObject], idle)
    | ',' => some ([.comma], idle)
    | ':' => some ([.colon], idle)
    | _ => none

/-- The token that is complete when the input stops here. -/
def finish : Scan → Option (List Token)
  | idle => some []
  | number chars => (number? chars.reverse).map fun n => [.number n]
  | word chars => (word? chars.reverse).map fun token => [token]
  | _ => none

/-- Takes one unit. -/
def step : Scan → Option Char → Option (List Token × Scan)
  | string pieces, none => some ([], string (.octet :: pieces))
  | string pieces, some c =>
    if c == '"' then some ([.string (textOf pieces.reverse)], idle)
    else if c == '\\' then some ([], escape pieces)
    else if c.toNat < 0x20 then none
    else some ([], string (.char c :: pieces))
  | escape pieces, some c =>
    if c == 'u' then some ([], hex pieces 0 0)
    else (escaped? c).map fun e => ([], string (.char e :: pieces))
  | hex pieces digits value, some c =>
    (Text.hexValue? c).map fun d =>
      if digits == 3 then ([], string (.unit (16 * value + d) :: pieces))
      else ([], hex pieces (digits + 1) (16 * value + d))
  | idle, some c => start c
  | number chars, some c =>
    if isNumeric c then some ([], number (c :: chars))
    else do
      let before ← finish (number chars)
      let (after, next) ← start c
      return (before ++ after, next)
  | word chars, some c =>
    if c.isLower then some ([], word (c :: chars))
    else do
      let before ← finish (word chars)
      let (after, next) ← start c
      return (before ++ after, next)
  | _, none => none

/-- The tokens that the units make, from a state to the end. -/
def run : Scan → List Token → Units → Option (List Token)
  | state, found, [] => (finish state).map fun last => (last.reverse ++ found).reverse
  | state, found, u :: rest =>
    match step state u with
    | none => none
    | some (tokens, next) => run next (tokens.reverse ++ found) rest

end Scan

/-- The tokens of an input. -/
def tokens? (units : Units) : Option (List Token) := Scan.run .idle [] units

end TenantStorage.Json
