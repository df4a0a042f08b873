import TenantStorage.Json.Token

/-!
# Reading JSON

Tokens are assembled by a machine with an explicit stack of unfinished arrays and objects, so a value
may nest to any depth.

* `Json.Assembly.step` — one token.
* `Json.ofTokens?` — the value of a sequence of tokens.
* `Json.ofUnits?`, `Json.parse?` — the value of an input, with nothing but space around it.
-/

namespace TenantStorage.Json

/-- An array or object that is not closed yet, with its finished parts in reverse. -/
inductive Frame where
  | array (items : List Json)
  | object (members : List (Text × Json)) (key : Text)

/-- What may come next. -/
inductive Assembly where
  /-- A value. -/
  | value (stack : List Frame)
  /-- A first item or the end of the array that has just been opened. -/
  | firstItem (stack : List Frame)
  /-- A first key or the end of the object that has just been opened. -/
  | firstKey (stack : List Frame)
  /-- A key. -/
  | key (members : List (Text × Json)) (stack : List Frame)
  /-- The colon after a key. -/
  | colon (members : List (Text × Json)) (key : Text) (stack : List Frame)
  /-- A comma or the end of the innermost frame. -/
  | separator (frame : Frame) (stack : List Frame)
  /-- Nothing. -/
  | finished (value : Json)

namespace Assembly

/-- Goes on after a complete value. -/
def complete (value : Json) : List Frame → Assembly
  | [] => finished value
  | .array items :: stack => separator (.array (value :: items)) stack
  | .object members k :: stack => separator (.object ((k, value) :: members) k) stack

/-- Begins or completes a value. -/
def begin (stack : List Frame) : Token → Option Assembly
  | .openArray => some (firstItem stack)
  | .openObject => some (firstKey stack)
  | .null => some (complete .null stack)
  | .bool b => some (complete (.bool b) stack)
  | .number n => some (complete (.number n) stack)
  | .string s => some (complete (.string s) stack)
  | _ => none

/-- Takes one token. -/
def step : Assembly → Token → Option Assembly
  | value stack, token => begin stack token
  | firstItem stack, .closeArray => some (complete (.array []) stack)
  | firstItem stack, token => begin (.array [] :: stack) token
  | firstKey stack, .closeObject => some (complete (.object []) stack)
  | firstKey stack, .string k => some (colon [] k stack)
  | key members stack, .string k => some (colon members k stack)
  | colon members k stack, .colon => some (value (.object members k :: stack))
  | separator (.array items) stack, .comma => some (value (.array items :: stack))
  | separator (.array items) stack, .closeArray => some (complete (.array items.reverse) stack)
  | separator (.object members _) stack, .comma => some (key members stack)
  | separator (.object members _) stack, .closeObject =>
    some (complete (.object members.reverse) stack)
  | _, _ => none

/-- Takes all tokens. -/
def run : Assembly → List Token → Option Assembly
  | state, [] => some state
  | state, token :: rest => (step state token).bind fun next => run next rest

end Assembly

/-- The value that a sequence of tokens stands for. -/
def ofTokens? (tokens : List Token) : Option Json :=
  match Assembly.run (.value []) tokens with
  | some (.finished value) => some value
  | _ => none

/-- The value of an input. -/
def ofUnits? (units : Units) : Option Json := (tokens? units).bind ofTokens?

/-- The value of a text. -/
def parse? (text : String) : Option Json := ofUnits? (.ofString text)

end TenantStorage.Json
