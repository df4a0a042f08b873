import TenantStorage.Json.Basic
import TenantStorage.Logging.Filter

/-!
# Log lines

* `Logging.Event` — what is logged.
* `Event.toJson`, `Event.text` — the two forms of a line.
* `Filter.passing` — the events that a filter lets through.
-/

namespace TenantStorage.Logging

/-- Something that is logged. -/
structure Event where
  severity : Severity
  target : String
  message : String
deriving DecidableEq, Repr

namespace Event

/-- A line as an object. -/
def toJson (time : String) (event : Event) : Json := .record [
  ("timestamp", .ofText time),
  ("level", .ofText event.severity.label),
  ("fields", .record [("message", .ofText event.message)]),
  ("target", .ofText event.target)]

/-- A line as text, behind its time. -/
def text (event : Event) : String :=
  event.severity.label ++ " " ++ event.target ++ ": " ++ event.message

end Event

/-- The events that a filter lets through. -/
def Filter.passing (filter : Filter) (events : List Event) : List Event :=
  events.filter fun event => filter.passes event.target event.severity

end TenantStorage.Logging
