import TenantStorage.Text.Case

/-!
# Severities

* `Severity` — how severe an event is, `error` being the most severe.
* `Threshold` — the least severe events that are let through, or none at all.
* `Severity.ofSetting`, `Threshold.parse?` — readers.
-/

namespace TenantStorage.Logging

/-- How severe an event is. -/
inductive Severity where
  | error
  | warn
  | info
  | debug
  | trace
deriving DecidableEq, Repr, Inhabited

/-- Which events are let through: those with at most this rank. -/
structure Threshold where
  rank : Nat
deriving DecidableEq, Repr, Inhabited

namespace Severity

/-- From 1 for errors to 5 for traces. -/
def rank : Severity → Nat
  | error => 1
  | warn => 2
  | info => 3
  | debug => 4
  | trace => 5

/-- The word for a severity. -/
def text : Severity → String
  | error => "error"
  | warn => "warn"
  | info => "info"
  | debug => "debug"
  | trace => "trace"

/-- The word for a severity in log lines. -/
def label : Severity → String
  | error => "ERROR"
  | warn => "WARN"
  | info => "INFO"
  | debug => "DEBUG"
  | trace => "TRACE"

/-- All severities, the most severe first. -/
def all : List Severity := [error, warn, info, debug, trace]

/-- The severity of a word in any letter case. -/
def ofWord? (word : String) : Option Severity := all.find? fun s => Text.sameWord word s.text

/-- The severity that a setting names; an unknown word stands for `info`. -/
def ofSetting (setting : String) : Severity := (ofWord? setting).getD info

end Severity

namespace Threshold

/-- Lets nothing through. -/
def off : Threshold := ⟨0⟩

/-- Lets a severity through, and all that are more severe. -/
def upTo (severity : Severity) : Threshold := ⟨severity.rank⟩

/-- Whether a severity is let through. -/
def passes (threshold : Threshold) (severity : Severity) : Bool := severity.rank ≤ threshold.rank

/-- The word for a threshold. -/
def text (threshold : Threshold) : String :=
  match Severity.all.find? (·.rank == threshold.rank) with
  | some severity => severity.text
  | none => "off"

/-- A number from 0 to 5, which may have a plus sign and leading zeros. -/
def ofNumber? (text : String) : Option Threshold :=
  let digits := match text.toList with
    | '+' :: rest => rest
    | cs => cs
  if digits.isEmpty || !digits.all Char.isDigit then none
  else
    let n := digits.foldl (fun n c => 10 * n + (c.toNat - '0'.toNat)) 0
    if n ≤ 5 then some ⟨n⟩ else none

/-- Reads a threshold: a number, `off`, or the word for a severity, in any letter case. -/
def parse? (text : String) : Option Threshold :=
  (ofNumber? text).or
    (if Text.sameWord text "off" then some off else (Severity.ofWord? text).map upTo)

end Threshold

end TenantStorage.Logging
