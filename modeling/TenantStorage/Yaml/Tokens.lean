import TenantStorage.Yaml.Property
import TenantStorage.Yaml.Scalar.Block
import TenantStorage.Yaml.Scalar.Quoted

/-!
# Reading YAML tokens

A document is read from left to right.  A key of a mapping is known as a key only when its colon
comes, so the place of every token that may turn out to start a key is kept until its line ends.

* `Scan` — how far a document has been read.
* `Scan.settle` — white space, and the ends of the blocks that are indented deeper than what follows.
* `Scan.token?` — the next token.
* `tokens?` — all tokens of a document.
-/

namespace TenantStorage.Yaml

/-- A place where a key may have started. -/
structure KeyStart where
  /-- Whether there must be a key here: it stands where the keys of the enclosing mapping stand. -/
  required : Bool
  /-- How many tokens stand before it. -/
  position : Nat
  mark : Mark
deriving DecidableEq, Repr

/-- How far a document has been read. -/
structure Scan where
  cursor : Cursor
  /-- For every open block, innermost first, the column after the one where it stands. -/
  margins : List Nat
  /-- Where a key may have started, inside the innermost brackets. -/
  keyStart : Option KeyStart
  /-- The same around each of the open brackets, innermost first. -/
  outerStarts : List (Option KeyStart)
  /-- Whether a key may start here. -/
  keyAllowed : Bool
  /-- What has been read, the latest first. -/
  tokens : List Token
deriving Repr

namespace Scan

/-- Nothing has been read. -/
def start (cs : List Char) : Scan :=
  { cursor := ⟨cs, ⟨0, 0, 0⟩⟩, margins := [], keyStart := none, outerStarts := [],
    keyAllowed := true, tokens := [] }

/-- Whether the cursor stands inside brackets. -/
def inFlow (scan : Scan) : Bool := !scan.outerStarts.isEmpty

/-- The least column at which what belongs into the innermost block may stand. -/
def margin (scan : Scan) : Nat := scan.margins.headD 0

/-- The position of the cursor. -/
def mark (scan : Scan) : Mark := scan.cursor.mark

/-- Appends a token. -/
def push (scan : Scan) (token : Token) : Scan := { scan with tokens := token :: scan.tokens }

/-- Puts a token behind the first `position` tokens. -/
def insert (scan : Scan) (position : Nat) (token : Token) : Scan :=
  { scan with tokens := scan.tokens.insertIdx (scan.tokens.length - position) token }

/-! ### Blocks -/

/-- Opens a block at a column, with a token behind the first `position` tokens, unless one is open there
    already.  Inside brackets there are no blocks. -/
def openBlock (scan : Scan) (column position : Nat) (token : Token) : Scan :=
  if scan.inFlow || column < scan.margin then scan
  else { scan.insert position token with margins := (column + 1) :: scan.margins }

/-- Closes the blocks that start at `limit` or further right. -/
def closeFrom (limit : Nat) : (margins : List Nat) → List Token → List Nat × List Token
  | [], tokens => ([], tokens)
  | margin :: margins, tokens =>
    if limit < margin then closeFrom limit margins (.blockEnd :: tokens)
    else (margin :: margins, tokens)

/-- Closes the blocks that start at `limit` or further right.  Inside brackets there are no blocks. -/
def closeBlocks (scan : Scan) (limit : Nat) : Scan :=
  if scan.inFlow then scan
  else
    let (margins, tokens) := closeFrom limit scan.margins scan.tokens
    { scan with margins, tokens }

/-! ### Keys -/

/-- Gives up a place where a key may have started; nothing is returned where there must be a key. -/
def KeyStart.drop? : Option KeyStart → Option (Option KeyStart)
  | some start => if start.required then none else some none
  | none => some none

/-- Gives up the place where a key may have started. -/
def dropKey (scan : Scan) : Option Scan :=
  (KeyStart.drop? scan.keyStart).map fun keyStart => { scan with keyStart }

/-- Keeps the place of the next token, if a key may start there. -/
def markKey (scan : Scan) : Option Scan :=
  if scan.keyAllowed then
    scan.dropKey.map fun scan =>
      let required := !scan.inFlow && scan.margin == scan.mark.column + 1
      { scan with keyStart := some ⟨required, scan.tokens.length, scan.mark⟩ }
  else some scan

/-- Gives up a place that is too far away: a key stands on the line of its colon and is at most 1024
    octets long. -/
def KeyStart.keep? (mark : Mark) : Option KeyStart → Option (Option KeyStart)
  | some start =>
    if start.mark.line < mark.line ∨ start.mark.index + 1024 < mark.index then
      KeyStart.drop? (some start)
    else some (some start)
  | none => some none

/-- Gives up the places that are too far away. -/
def dropStale (scan : Scan) : Option Scan := do
  let outerStarts ← scan.outerStarts.mapM (KeyStart.keep? scan.mark)
  let keyStart ← KeyStart.keep? scan.mark scan.keyStart
  return { scan with keyStart, outerStarts }

/-! ### White space -/

/-- Passes over white space and comments.  Outside of brackets a new line may start with a key; where a
    key may start, a tab must not stand for indentation. -/
def skip (flow : Bool) : List Char → Mark → (comment keyAllowed : Bool) → Bool × Cursor
  | [], mark, _, keyAllowed => (keyAllowed, ⟨[], mark⟩)
  | c :: rest, mark, comment, keyAllowed =>
    if isBreak c then skip flow rest mark.nextLine false (keyAllowed || !flow)
    else if comment || c == '#' then skip flow rest (mark.after c) true keyAllowed
    else if c == ' ' || (c == '\t' && (flow || !keyAllowed)) || (c == '\ufeff' && mark.column == 0) then
      skip flow rest (mark.after c) false keyAllowed
    else (keyAllowed, ⟨c :: rest, mark⟩)

/-- Passes over white space, gives up the places that are too far away, and closes the blocks that end
    here. -/
def settle (scan : Scan) : Option Scan := do
  let (keyAllowed, cursor) := skip scan.inFlow scan.cursor.rest scan.mark false scan.keyAllowed
  let scan ← { scan with keyAllowed, cursor }.dropStale
  return scan.closeBlocks (scan.mark.column + 1)

/-! ### Tokens -/

/-- Passes over some characters and appends a token for them. -/
def take (scan : Scan) (n : Nat) (token : Token) : Scan :=
  { scan with cursor := scan.cursor.advance n }.push token

/-- A directive, or a line that starts or ends a document: it closes all blocks. -/
def boundary (scan : Scan) (read : Scan → Option Scan) : Option Scan := do
  let scan ← (scan.closeBlocks 0).dropKey
  read { scan with keyAllowed := false }

/-- An opening bracket, which may be the start of a key. -/
def openBracket (scan : Scan) (token : Token) : Option Scan := do
  let scan ← scan.markKey
  let scan := { scan with
    keyStart := none, outerStarts := scan.keyStart :: scan.outerStarts, keyAllowed := true }
  return scan.take 1 token

/-- A closing bracket. -/
def closeBracket (scan : Scan) (token : Token) : Option Scan := do
  let scan ← scan.dropKey
  let scan := match scan.outerStarts with
    | [] => scan
    | keyStart :: outerStarts => { scan with keyStart, outerStarts }
  return { scan with keyAllowed := false }.take 1 token

/-- A comma between brackets. -/
def comma (scan : Scan) : Option Scan := do
  let scan ← scan.dropKey
  return { scan with keyAllowed := true }.take 1 .flowEntry

/-- The hyphen before an item. -/
def hyphen (scan : Scan) : Option Scan :=
  if !scan.inFlow && !scan.keyAllowed then none
  else do
    let scan := scan.openBlock scan.mark.column scan.tokens.length .blockSequenceStart
    let scan ← scan.dropKey
    return { scan with keyAllowed := true }.take 1 .blockEntry

/-- The question mark before a key. -/
def question (scan : Scan) : Option Scan :=
  if !scan.inFlow && !scan.keyAllowed then none
  else do
    let scan := scan.openBlock scan.mark.column scan.tokens.length .blockMappingStart
    let scan ← scan.dropKey
    return { scan with keyAllowed := !scan.inFlow }.take 1 .key

/-- The colon between a key and its value.  What stands before it on its line turns out to be a key;
    otherwise the key was given behind a question mark, or is missing. -/
def colon (scan : Scan) : Option Scan :=
  match scan.keyStart with
  | some start =>
    let scan := (scan.insert start.position .key).openBlock start.mark.column start.position
      .blockMappingStart
    some ({ scan with keyStart := none, keyAllowed := false }.take 1 .value)
  | none =>
    if !scan.inFlow && !scan.keyAllowed then none
    else
      let scan := scan.openBlock scan.mark.column scan.tokens.length .blockMappingStart
      some ({ scan with keyAllowed := !scan.inFlow }.take 1 .value)

/-- An anchor, a reference or a tag, which may be the start of a key. -/
def property (scan : Scan) (read : Cursor → Option (Token × Cursor)) : Option Scan := do
  let scan ← scan.markKey
  let (token, cursor) ← read scan.cursor
  return { scan with cursor, keyAllowed := false }.push token

/-- A plain or quoted scalar, which may be a key. -/
def scalar (scan : Scan) (style : Style) (read : Cursor → Option Scanned) : Option Scan := do
  let scan ← scan.markKey
  let scanned ← read scan.cursor
  return { scan with cursor := scanned.cursor, keyAllowed := scanned.newLine }.push
    (.scalar style scanned.text)

/-- A block scalar, which is no key. -/
def block (scan : Scan) (style : Style) : Option Scan := do
  let scan ← scan.dropKey
  let scanned ← Block.scan style scan.margin scan.cursor
  return { scan with cursor := scanned.cursor, keyAllowed := true }.push (.scalar style scanned.text)

/-- Whether a plain scalar may start with these characters.  An indicator may start one only where it
    cannot be taken for the indicator. -/
def startsPlain (flow : Bool) : List Char → Bool
  | [] => false
  | c :: rest =>
    if c == '-' then !rest.head?.any isBlank
    else if c == '?' || c == ':' then !flow && !endsWord rest
    else !(isFlowIndicator c || c == '\x60' ||
      ['#', '&', '*', '!', '|', '>', '\'', '"', '%', '@', '\t'].contains c)

/-- Reads the next token, which starts with the character `c`. -/
def token? (scan : Scan) (c : Char) (rest : List Char) : Option Scan :=
  let flow := scan.inFlow
  if c == '%' && scan.mark.column == 0 then
    scan.boundary fun scan => do
      let (token, cursor) ← Property.directive? scan.cursor
      return { scan with cursor }.push token
  else if atMarker '-' scan.mark (c :: rest) then scan.boundary fun scan => scan.take 3 .documentStart
  else if atMarker '.' scan.mark (c :: rest) then scan.boundary fun scan => scan.take 3 .documentEnd
  else if c == '[' then scan.openBracket .flowSequenceStart
  else if c == '\x7b' then scan.openBracket .flowMappingStart
  else if c == ']' then scan.closeBracket .flowSequenceEnd
  else if c == '\x7d' then scan.closeBracket .flowMappingEnd
  else if c == ',' then scan.comma
  else if c == '-' && endsWord rest then scan.hyphen
  else if c == '?' && (flow || endsWord rest) then scan.question
  else if c == ':' && (flow || endsWord rest) then scan.colon
  else if c == '*' then
    scan.property fun cursor => (Property.name? cursor).map fun (name, cursor) =>
      (.reference name, cursor)
  else if c == '&' then
    scan.property fun cursor => (Property.name? cursor).map fun (name, cursor) =>
      (.anchor name, cursor)
  else if c == '!' then scan.property (Property.tag? flow)
  else if c == '|' && !flow then scan.block .literal
  else if c == '>' && !flow then scan.block .folded
  else if c == '\'' then scan.scalar .singleQuoted (Quoted.scan .singleQuoted)
  else if c == '"' then scan.scalar .doubleQuoted (Quoted.scan .doubleQuoted)
  else if startsPlain flow (c :: rest) then scan.scalar .plain (Plain.scan flow scan.margin)
  else none

/-- Reads all tokens.  Each takes at least one character, so the number of characters bounds their
    number. -/
def run : (bound : Nat) → Scan → Option (List Token)
  | 0, _ => none
  | bound + 1, scan => do
    let scan ← scan.settle
    match scan.cursor.rest with
    | [] =>
      let scan ← (scan.closeBlocks 0).dropKey
      return scan.tokens.reverse
    | c :: rest => run bound (← scan.token? c rest)

end Scan

/-- The tokens of a document. -/
def tokens? (text : String) : Option (List Token) :=
  let cs := lineFeeds text.toList
  if cs.all isAllowed then Scan.run (cs.length + 1) (.start cs) else none

end TenantStorage.Yaml
