import TenantStorage.Failure
import TenantStorage.Logging.Directive
import TenantStorage.Settings.Basic

/-!
# Filters

* `Filter.passes` — whether an event is let through: of the directives whose target is the beginning of the
  event's target, the longest decides, and of two for one target the one that asks for a field.
* `Filter.add` — a directive replaces an earlier one for the same events.
* `filterOf` — the filter of the settings, or of an override, with the caps on client libraries.
* `install` — sets logging up, which can be done once.
-/

namespace TenantStorage.Logging

/-- Directives for different events, and the highest threshold that was ever among them. -/
structure Filter where
  directives : List Directive
  highest : Threshold
deriving DecidableEq, Repr, Inhabited

namespace Filter

/-- The filter that lets nothing through. -/
def empty : Filter := ⟨[], .off⟩

/-- The highest threshold that a directive may come to.  The values of fields are known only inside of a span, so
    one that compares a value has to let all spans be entered. -/
def reach (directive : Directive) : Threshold :=
  if directive.field.any (·.value.isSome) then .upTo .trace else directive.threshold

/-- Whether two directives are for the same events. -/
def sameEvents (a b : Directive) : Bool := a.target == b.target && a.span == b.span && a.field == b.field

/-- Adds a directive, in the place of an earlier one for the same events. -/
def add (filter : Filter) (directive : Directive) : Filter :=
  { directives := directive :: filter.directives.filter (!sameEvents · directive)
    highest := if filter.highest.rank < (reach directive).rank then reach directive
      else filter.highest }

/-- The filter of some directives. -/
def ofDirectives (directives : List Directive) : Filter := directives.foldl add empty

/-- The only field of an event. -/
def eventField : String := "message"

/-- Whether a directive speaks of events with a target, outside of all spans. -/
def isFor (directive : Directive) (target : String) : Bool :=
  directive.span.isNone &&
    directive.field.all (fun field => field.name == eventField && field.value.isNone) &&
    directive.target.all fun start => Text.startsWith target start

/-- How closely a directive describes its events: by the target first, then by the field. -/
def weight (directive : Directive) : Nat :=
  let ofTarget := match directive.target with
    | none => 0
    | some start => start.toList.length + 1
  2 * ofTarget + (if directive.field.isSome then 1 else 0)

/-- The directive that decides on a target. -/
def deciding? (filter : Filter) (target : String) : Option Directive :=
  (filter.directives.filter (isFor · target)).foldl (fun best directive =>
    match best with
    | none => some directive
    | some b => if weight b < weight directive then some directive else some b) none

/-- Whether an event is let through. -/
def passes (filter : Filter) (target : String) (severity : Severity) : Bool :=
  match filter.deciding? target with
  | none => false
  | some directive => directive.threshold.passes severity

/-- The severities that are let through for a target. -/
def passed (filter : Filter) (target : String) : List Severity :=
  Severity.all.filter (filter.passes target)

end Filter

/-! ### The filter of the settings -/

/-- The caps on the chatter of client libraries. -/
def caps : List Directive :=
  [.cap "hyper" .warn, .cap "reqwest" .warn, .cap "kube" .info, .cap "tower" .warn]

/-- The name of the variable that overrides the settings. -/
def overrideName : String := "RUST_LOG"

/-- Why there is no filter. -/
inductive FilterFault where
  /-- The override is refused. -/
  | refused (failure : Failure)
  /-- A part of the override begins or ends inside of a character. -/
  | broken (cut : Directive.BrokenCut)
deriving DecidableEq, Repr

/-- The filter without the caps: the override unless it is blank, else the level of the settings. -/
def baseFilter (settings : Settings.Logging) (override : Option String) : Except FilterFault Filter :=
  match (override.map Text.trim).filter (· != "") with
  | none => .ok (.ofDirectives [.global (.ofSetting settings.level)])
  | some text =>
    match Directive.parseAll text with
    | .ok directives => .ok (.ofDirectives directives)
    | .error (.broken cut) => .error (.broken cut)
    | .error fault => .error (.refused (.configuration
        ("Invalid " ++ overrideName ++ " '" ++ text ++ "': " ++ fault.message)))

/-- The filter with the caps. -/
def filterOf (settings : Settings.Logging) (override : Option String) : Except FilterFault Filter :=
  (baseFilter settings override).map fun base => caps.foldl Filter.add base

/-! ### Installation -/

/-- What is reported when logging has been set up before. -/
def alreadyInstalled : Failure := .configuration
  "Logging already initialized: a global default trace dispatcher has already been set"

/-- Sets logging up where `installed` is the filter in force; returns the filter in force after it. -/
def install (settings : Settings.Logging) (override : Option String) (installed : Option Filter) :
    Except FilterFault Unit × Option Filter :=
  match filterOf settings override with
  | .error fault => (.error fault, installed)
  | .ok filter =>
    match installed with
    | some _ => (.error (.refused alreadyInstalled), installed)
    | none => (.ok (), some filter)

end TenantStorage.Logging
