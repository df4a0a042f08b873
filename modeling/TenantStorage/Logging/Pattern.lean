import TenantStorage.Text.Alphanumeric
import TenantStorage.Text.Blank
import TenantStorage.Text.Hex

/-!
# Patterns

A directive may compare the value of a field with a regular expression.  A log line is never matched here; what
matters is whether a directive is accepted, and so whether its pattern is well-formed.

* `Pattern.Reading` — what has to be remembered of the part that was read.
* `Pattern.step` — one item of a pattern, in a set in brackets or not.
* `Pattern.check` — a whole pattern.

Patterns are matched on UTF-8 by an automaton without memory.  Hence no look-around and no back references, where
the flag `u` is off nothing that could match a part of a character, and nowhere the boundary of a word of
Unicode.
-/

namespace TenantStorage.Logging

/-- Why a pattern is refused. -/
inductive Pattern.Fault where
  | malformed
  /-- It asks for the boundary of a word of Unicode. -/
  | wordBoundary
deriving DecidableEq, Repr

namespace Pattern

/-- The wording of a fault. -/
def Fault.message : Fault → String
  | malformed => "error building NFA"
  | wordBoundary => "unsupported regex feature for DFAs: cannot build DFAs for regexes with Unicode " ++
      "word boundaries; switch to ASCII word boundaries, or heuristically enable Unicode word " ++
      "boundaries or use a different regex engine"

/-- The flags that change what is well-formed. -/
structure Flags where
  /-- Blanks and comments do not count (`x`). -/
  spaced : Bool
  /-- Characters are those of Unicode, not octets (`u`). -/
  unicode : Bool
deriving DecidableEq, Repr

/-- What has to be remembered of the part that was read. -/
structure Reading where
  flags : Flags
  /-- The flags outside of each open group, innermost first. -/
  groups : List Flags
  /-- How many sets in brackets are open. -/
  sets : Nat
  /-- Whether an item was read last, which may be repeated. -/
  repeatable : Bool
  /-- The names of groups. -/
  names : List (List Char)
  /-- Whether the boundary of a word of Unicode was asked for. -/
  boundary : Bool
deriving DecidableEq, Repr

/-- Nothing was read. -/
def Reading.start : Reading := ⟨⟨false, true⟩, [], 0, false, [], false⟩

/-! ### Space -/

/-- What follows blanks and comments, and hyphens among them if `hyphens` says so. -/
def afterSpace (hyphens : Bool) : (comment : Bool) → List Char → List Char
  | _, [] => []
  | true, c :: rest => afterSpace hyphens (c != '\n') rest
  | false, c :: rest =>
    if Text.isBlank c || (hyphens && c == '-') then afterSpace hyphens false rest
    else if c == '#' then afterSpace hyphens true rest
    else c :: rest

/-- What follows blanks and comments, where they do not count. -/
def Flags.skip (flags : Flags) (cs : List Char) : List Char :=
  if flags.spaced then afterSpace false false cs else cs

/-- What follows hyphens, and blanks and comments among them where those do not count. -/
def Flags.skipHyphens (flags : Flags) (cs : List Char) : List Char :=
  if flags.spaced then afterSpace true false cs else cs.dropWhile (· == '-')

/-- The next character that counts in front of a range's end; of a comment, the first character after the
    blanks in it. -/
def Flags.peek? (flags : Flags) (cs : List Char) : Option Char :=
  if flags.spaced then
    match cs.dropWhile Text.isBlank with
    | '#' :: rest => (rest.dropWhile Text.isBlank).head?
    | rest => rest.head?
  else cs.head?

/-! ### Escapes -/

/-- What stands for itself after a backslash: ASCII characters other than letters, digits and the two angle
    brackets. -/
def isEscapable (c : Char) : Bool := c.toNat < 0x80 && !c.isAlphanum && c != '<' && c != '>'

/-- What an escape stands for. -/
inductive Escape where
  | char (c : Char)
  /-- A class of characters. -/
  | set
  /-- A place in the text. -/
  | place
  /-- A place at or in a word. -/
  | boundary
deriving DecidableEq, Repr

/-- The value of some hexadecimal digits, with space between them where that does not count. -/
def hex? (flags : Flags) : (digits value : Nat) → List Char → Option (Nat × List Char)
  | 0, value, cs => some (value, cs)
  | digits + 1, value, cs =>
    match flags.skip cs with
    | c :: rest => (Text.hexValue? c).bind fun d => hex? flags digits (16 * value + d) rest
    | [] => none

/-- The character with a number in hexadecimal digits.  Two digits are an octet where characters are. -/
def numbered? (flags : Flags) (digits : Nat) (cs : List Char) : Option (Escape × List Char) :=
  (hex? flags digits 0 cs).bind fun (n, rest) =>
    if h : n.isValidChar then
      if digits = 2 ∧ 0x7f < n ∧ !flags.unicode then none
      else some (.char (Char.ofNatAux n h), flags.skip rest)
    else none

/-- The letters of the general categories. -/
def categories : List Char := ['c', 'l', 'm', 'n', 'p', 's', 'z']

/-- Reads what follows a backslash. -/
def escape? (flags : Flags) : List Char → Option (Escape × List Char)
  | [] => none
  | c :: rest =>
    if c == 'x' then numbered? flags 2 rest
    else if c == 'u' then numbered? flags 4 rest
    else if c == 'U' then numbered? flags 8 rest
    else if c == 'p' || c == 'P' then
      match flags.skip rest with
      | k :: rest => if flags.unicode && categories.contains k.toLower then some (.set, rest) else none
      | [] => none
    else if ['d', 's', 'w'].contains c then some (.set, rest)
    else if ['D', 'S', 'W'].contains c then if flags.unicode then some (.set, rest) else none
    else if isEscapable c then some (.char c, rest)
    else if ['b', 'B', '<', '>'].contains c then some (.boundary, rest)
    else if c == 'A' || c == 'z' then some (.place, rest)
    else
      ([('a', '\x07'), ('f', '\x0c'), ('t', '\t'), ('n', '\n'), ('r', '\r'), ('v', '\x0b')].lookup c).map
        fun control => (.char control, rest)

/-! ### Groups -/

/-- The letters of flags. -/
def flagLetters : List Char := ['i', 'm', 's', 'U', 'u', 'R', 'x']

/-- Reads flags up to the colon or parenthesis after them: those set and those unset, no letter twice.  A minus
    sign stands in front of those unset, at most once and not at the end. -/
def flags? : (set unset : List Char) → (minus : Bool) → List Char →
    Option (List Char × List Char × List Char)
  | _, _, _, [] => none
  | set, unset, minus, c :: rest =>
    if c == ':' || c == ')' then
      if minus && unset.isEmpty then none else some (set, unset, c :: rest)
    else if c == '-' then if minus then none else flags? set unset true rest
    else if !flagLetters.contains c || set.contains c || unset.contains c then none
    else if minus then flags? set (c :: unset) minus rest
    else flags? (c :: set) unset minus rest

/-- The flags after some were set and some unset. -/
def Flags.change (flags : Flags) (set unset : List Char) : Flags where
  spaced := (flags.spaced || set.contains 'x') && !unset.contains 'x'
  unicode := (flags.unicode || set.contains 'u') && !unset.contains 'u'

/-- Whether a group may have this name. -/
def isName : List Char → Bool
  | [] => false
  | c :: rest =>
    (c == '_' || Text.isAlphabetic c) &&
      rest.all fun c => ['_', '.', '[', ']'].contains c || Text.isAlphanumeric c

/-- Opens a group, inside of which other flags may hold. -/
def Reading.openGroup (r : Reading) (flags : Flags) : Reading :=
  { r with flags, groups := r.flags :: r.groups, repeatable := false }

/-- Reads the name of a group, up to the angle bracket after it. -/
def named? (r : Reading) (cs : List Char) : Option (Reading × List Char) :=
  let name := cs.takeWhile (· != '>')
  match cs.drop name.length with
  | _ :: rest =>
    if isName name && !r.names.contains name then
      some ({ r.openGroup r.flags with names := name :: r.names }, rest)
    else none
  | [] => none

/-- Reads what follows an opening parenthesis. -/
def group? (r : Reading) (cs : List Char) : Option (Reading × List Char) :=
  match r.flags.skip cs with
  | '?' :: '=' :: _ | '?' :: '!' :: _ | '?' :: '<' :: '=' :: _ | '?' :: '<' :: '!' :: _ => none
  | '?' :: 'P' :: '<' :: rest | '?' :: '<' :: rest => named? r rest
  | '?' :: rest =>
    match flags? [] [] false rest with
    | some (set, unset, closing :: rest) =>
      let flags := r.flags.change set unset
      if closing == ':' then some (r.openGroup flags, rest)
      else if set.isEmpty && unset.isEmpty then none
      else some ({ r with flags, repeatable := false }, rest)
    | _ => none
  | rest => some (r.openGroup r.flags, rest)

/-! ### Sets in brackets -/

/-- The names of ASCII classes. -/
def asciiClasses : List String := [
  "alnum", "alpha", "ascii", "blank", "cntrl", "digit", "graph", "lower", "print", "punct", "space",
  "upper", "word", "xdigit"]

/-- Reads an ASCII class after its opening bracket, as in `[:^alpha:]`; tells whether it is negated. -/
def asciiClass? (cs : List Char) : Option (Bool × List Char) :=
  match cs with
  | ':' :: cs =>
    let negated := cs.head? == some '^'
    let cs := if negated then cs.drop 1 else cs
    let name := cs.takeWhile (· != ':')
    match cs.drop name.length with
    | ':' :: ']' :: rest =>
      if asciiClasses.contains (String.ofList name) then some (negated, rest) else none
    | _ => none
  | _ => none

/-- Reads the beginning of a set after its opening bracket: hyphens and a closing bracket in front are
    members.  The complement of a set of ASCII characters would have parts of characters in it. -/
def openSet? (r : Reading) (cs : List Char) : Option (Reading × List Char) :=
  let cs := r.flags.skip cs
  let negated := cs.head? == some '^'
  let cs := if negated then r.flags.skip (cs.drop 1) else cs
  let cs := if cs.head? == some ']' then cs.drop 1 else r.flags.skipHyphens cs
  if negated && !r.flags.unicode then none else some ({ r with sets := r.sets + 1 }, cs)

/-- A character of a set, or what an escape in a set stands for. -/
def member? (flags : Flags) : List Char → Option (Escape × List Char)
  | '\\' :: rest => escape? flags rest
  | c :: rest => some (.char c, rest)
  | [] => none

/-- Whether a set may have this member. -/
def Flags.allow (flags : Flags) : Escape → Bool
  | .char c => flags.unicode || c.toNat < 0x80
  | .set => true
  | _ => false

/-- Reads a member of a set, or a range of members. -/
def members? (flags : Flags) (cs : List Char) : Option (List Char) := do
  let (first, rest) ← member? flags cs
  let rest := flags.skip rest
  if !flags.allow first then none
  match rest with
  | '-' :: after =>
    if [some ']', some '-'].contains (flags.peek? after) then return rest
    else
      let (last, rest) ← member? flags (flags.skip after)
      match first, last with
      | .char a, .char b => if a ≤ b && flags.allow last then return rest else none
      | _, _ => none
  | _ => return rest

/-- Reads one item of a set, or the end of the set. -/
def setItem? (r : Reading) : List Char → Option (Reading × List Char)
  | '[' :: rest =>
    match asciiClass? rest with
    | some (negated, rest) => if negated && !r.flags.unicode then none else some (r, rest)
    | none => openSet? r rest
  | ']' :: rest => some ({ r with sets := r.sets - 1, repeatable := true }, rest)
  | '&' :: '&' :: rest | '-' :: '-' :: rest | '~' :: '~' :: rest => some (r, rest)
  | cs => (members? r.flags cs).map fun rest => (r, rest)

/-! ### Whole patterns -/

/-- Reads one item that is not in a set.  Of a counted repetition the closing brace would be missing, because
    a brace ends the pattern. -/
def item? (r : Reading) : List Char → Option (Reading × List Char)
  | [] => none
  | c :: rest =>
    if c == '(' then group? r rest
    else if c == ')' then
      match r.groups with
      | flags :: groups => some ({ r with flags, groups, repeatable := true }, rest)
      | [] => none
    else if c == '|' then some ({ r with repeatable := false }, rest)
    else if c == '[' then openSet? r rest
    else if c == '*' || c == '+' || c == '?' then
      if r.repeatable then some (r, if rest.head? == some '?' then rest.drop 1 else rest) else none
    else if c == '{' then none
    else if c == '\\' then
      (escape? r.flags rest).map fun (escape, rest) =>
        let boundary := r.boundary || (escape == .boundary && r.flags.unicode)
        ({ r with boundary, repeatable := true }, rest)
    else if c == '.' && !r.flags.unicode then none
    else some ({ r with repeatable := true }, rest)

/-- Reads one item. -/
def step (r : Reading) (cs : List Char) : Option (Reading × List Char) :=
  if r.sets = 0 then item? r cs else setItem? r cs

/-- Reads all items; each takes at least one character. -/
def read (r : Reading) (cs : List Char) : Option Reading :=
  match r.flags.skip cs with
  | [] => some r
  | rest =>
    match step r rest with
    | some (r, next) => if next.length < cs.length then read r next else none
    | none => none
termination_by cs.length

/-- Whether a pattern is accepted. -/
def check (pattern : List Char) : Except Fault Unit :=
  match read .start pattern with
  | some r =>
    if r.sets ≠ 0 ∨ r.groups ≠ [] then .error .malformed
    else if r.boundary then .error .wordBoundary
    else .ok ()
  | none => .error .malformed

end Pattern

end TenantStorage.Logging
