import TenantStorage.Logging.Pattern
import TenantStorage.Logging.Severity
import TenantStorage.Text.Quoted

/-!
# Directives

A filter is written as directives between commas.  A directive is a threshold, or a target with an optional
restriction in brackets and an optional threshold after `=`, as in `target[span{field=value}]=debug`.  A
directive without a threshold, or with nothing after the `=`, lets everything through.

* `Directive` — a threshold for some events; `Directive.Field` — a field that the events have.
* `Directive.parse` — one directive; `Directive.parseAll` — several.
* `Directive.Fault` — why a text is no directive.
-/

namespace TenantStorage.Logging

/-- A field that a directive asks for. -/
structure Directive.Field where
  name : String
  /-- The pattern of the value; any value if missing. -/
  value : Option String
deriving DecidableEq, Repr

/-- A threshold for some events. -/
structure Directive where
  /-- The beginning of the targets; all targets if missing. -/
  target : Option String
  threshold : Threshold
  /-- The name of the span in which the events have to be. -/
  span : Option String
  /-- A field of the events or of the spans around them. -/
  field : Option Directive.Field
deriving DecidableEq, Repr

/-- A place between two octets of a text that lies inside of a character. -/
structure Directive.BrokenCut where
  /-- Whether the part behind the place was wanted, not the part before it. -/
  isStart : Bool
  octets : Nat
  char : Char
  /-- How many octets come before the character. -/
  first : Nat
deriving DecidableEq, Repr

/-- Why a text is no directive. -/
inductive Directive.Fault where
  | badThreshold
  | malformed
  /-- The value of a field is no pattern. -/
  | badField (fault : Pattern.Fault)
  /-- The text cannot be cut where it has to be. -/
  | broken (cut : Directive.BrokenCut)
deriving DecidableEq, Repr

namespace Directive

/-! ### Wording -/

/-- The wording of a broken cut. -/
def BrokenCut.message (cut : BrokenCut) : String :=
  (if cut.isStart then "start" else "end") ++ " byte index " ++ cut.octets.repr ++
    " is not a char boundary; it is inside '" ++ String.ofList (Text.quoteChar cut.char) ++
    "' (bytes " ++ cut.first.repr ++ ".." ++ (cut.first + cut.char.utf8Size).repr ++ " of string)"

/-- The wording of a fault. -/
def Fault.message : Fault → String
  | badThreshold => "error parsing level filter: expected one of \"off\", \"error\", \"warn\", " ++
      "\"info\", \"debug\", \"trace\", or a number 0-5"
  | malformed => "invalid filter directive"
  | badField fault => "invalid field filter: " ++ fault.message
  | broken cut => cut.message

/-! ### Building -/

/-- A directive for all events. -/
def global (severity : Severity) : Directive := ⟨none, .upTo severity, none, none⟩

/-- A directive that caps the targets beginning with a text. -/
def cap (target : String) (severity : Severity) : Directive := ⟨some target, .upTo severity, none, none⟩

/-! ### Cutting

Places are found in the text without the blanks around it, but the parts are cut out of the text as it
stands.  Blanks in front of a directive therefore shift all parts. -/

/-- How many octets some characters take. -/
def octets (cs : List Char) : Nat := (cs.map Char.utf8Size).foldl (· + ·) 0

/-- The characters before and behind a place that lies `place` octets further on; `first` octets came
    before them. -/
def splitAt (isStart : Bool) (place : Nat) : (first : Nat) → List Char →
    Except Fault (List Char × List Char)
  | _, [] => .ok ([], [])
  | first, c :: rest =>
    if place ≤ first then .ok ([], c :: rest)
    else if place < first + c.utf8Size then .error (.broken ⟨isStart, place, c, first⟩)
    else (splitAt isStart place (first + c.utf8Size) rest).map fun (before, behind) => (c :: before, behind)

/-- The part of a text behind a place. -/
def cutFrom (cs : List Char) (start : Nat) : Except Fault (List Char) :=
  (splitAt true start 0 cs).map (·.2)

/-- The part of a text between two places. -/
def cut (cs : List Char) (start stop : Nat) : Except Fault (List Char) := do
  let behind ← cutFrom cs start
  return (← splitAt false stop start behind).1

/-! ### Reading -/

/-- Whether a target can begin with this character. -/
def beginsTarget (c : Char) : Bool := c == '-' || c == ':' || c == '_' || Text.isAlphanumeric c

/-- What stands after the `=`. -/
def thresholdOf (text : List Char) : Except Fault Threshold :=
  if text.isEmpty then .ok (.upTo .trace)
  else match Threshold.parse? (String.ofList text) with
    | some threshold => .ok threshold
    | none => .error .badThreshold

/-- A word that stands for itself: a threshold, or else a target. -/
def ofWord (word : List Char) : Directive :=
  match Threshold.parse? (String.ofList word) with
  | some threshold => ⟨none, threshold, none, none⟩
  | none => ⟨some (String.ofList word), .upTo .trace, none, none⟩

/-- Whether a text is a decimal number without sign, or the word for infinity or for what is no number. -/
def isDecimal (cs : List Char) : Bool :=
  let whole := cs.takeWhile Char.isDigit
  let rest := cs.drop whole.length
  let fraction := if rest.head? == some '.' then (rest.drop 1).takeWhile Char.isDigit else []
  let rest := if rest.head? == some '.' then rest.drop (fraction.length + 1) else rest
  ["inf", "infinity", "nan"].any (Text.sameWord (String.ofList cs)) ||
    (!(whole.isEmpty && fraction.isEmpty) &&
      match rest with
      | [] => true
      | e :: rest =>
        let digits := if rest.head? == some '+' || rest.head? == some '-' then rest.drop 1 else rest
        (e == 'e' || e == 'E') && !digits.isEmpty && digits.all Char.isDigit)

/-- Checks the value of a field: a number behind a plus sign, or else a pattern.  Every other number is a
    pattern anyway. -/
def checkValue (value : List Char) : Except Fault Unit :=
  match value with
  | '+' :: rest => if isDecimal rest then .ok () else (Pattern.check value).mapError .badField
  | _ => (Pattern.check value).mapError .badField

/-- Reads a field: its name, and the value between the first and the second `=`. -/
def fieldOf (text : List Char) : Except Fault Field :=
  if text.isEmpty then .error .malformed
  else
    let name := text.takeWhile (· != '=')
    match text.drop name.length with
    | [] => .ok ⟨String.ofList name, none⟩
    | _ :: rest =>
      let value := rest.takeWhile (· != '=')
      (checkValue value).map fun _ => ⟨String.ofList name, some (String.ofList value)⟩

/-- Reads what stands after the closing bracket, from a place on.  `cs` is the text as it stands, `rest` what
    follows the place in the text without the blanks around it. -/
def afterBracket (cs : List Char) (directive : Directive) (place : Nat) (rest : List Char) :
    Except Fault Directive :=
  match rest with
  | [] => .ok directive
  | '=' :: _ => do return { directive with threshold := ← thresholdOf (← cutFrom cs (place + 1)) }
  | _ => .error .malformed

/-- Reads what stands after the opening brace: one field, and both brackets closed. -/
def afterBrace (cs : List Char) (directive : Directive) (place : Nat) (rest : List Char) :
    Except Fault Directive := do
  let inside := rest.takeWhile (· != '\x7d')
  let stop := place + octets inside
  match rest.drop inside.length with
  | [] => .error .malformed
  | _ :: rest =>
    let field ← fieldOf (← cut cs place stop)
    match rest with
    | ']' :: rest => afterBracket cs { directive with field := some field } (stop + 2) rest
    | _ => .error .malformed

/-- Reads what stands after the opening bracket: the name of a span, and perhaps a field.  A field may stand
    without a span. -/
def inBracket (cs : List Char) (target : Option String) (place : Nat) (rest : List Char) :
    Except Fault Directive := do
  let inside := rest.takeWhile fun c => !(c == ']' || c == '\x7b')
  let stop := place + octets inside
  match rest.drop inside.length with
  | ']' :: rest =>
    let span ← cut cs place stop
    afterBracket cs ⟨target, .upTo .trace, some (String.ofList span), none⟩ (stop + 1) rest
  | _ :: rest =>
    let span ← cut cs place stop
    let span := if span.isEmpty then none else some (String.ofList span)
    afterBrace cs ⟨target, .upTo .trace, span, none⟩ (stop + 1) rest
  | [] => .error .malformed

/-- Reads one directive. -/
def parse (cs : List Char) : Except Fault Directive :=
  let trimmed := Text.trimChars cs
  match trimmed with
  | [] => .error .malformed
  | '[' :: rest => inBracket cs none 1 rest
  | c :: _ =>
    if !beginsTarget c then .error .malformed
    else
      let word := trimmed.takeWhile fun c => !(c == '=' || c == '[')
      let stop := octets word
      match trimmed.drop word.length with
      | [] => .ok (ofWord cs)
      | sign :: rest => do
        let target := some (String.ofList (← cut cs 0 stop))
        if sign == '[' then inBracket cs target (stop + 1) rest
        else return ⟨target, ← thresholdOf (← cutFrom cs (stop + 1)), none, none⟩

/-- Reads directives between commas; nothing between two commas is no directive. -/
def parseAll (text : String) : Except Fault (List Directive) :=
  ((text.toList.splitOn ',').filter (!·.isEmpty)).mapM parse

end Directive

end TenantStorage.Logging
