import TenantStorage.Action

/-!
# Metrics of the engine

Counters for runs, machines, interfaces and rotations, and a histogram of how many looks a new machine
took.  A counter with a label has one series per label value, and a series exists from the first time
that it is counted or read.

* `Metrics` — the state; `Metrics.record` — what an event changes.
* `Metrics.readProvisions`, `readInterfaces` — reading a labelled counter, which may create its series.
-/

namespace TenantStorage

/-- The series of a counter by the value of its label. -/
abbrev Metrics.Series := SortedMap String Nat

/-- The metrics of an engine. -/
structure Metrics where
  /-- Runs by outcome. -/
  provisions : Metrics.Series
  svmsCreated : Nat
  /-- The numbers of looks that waits took, the latest first. -/
  readinessAttempts : List Nat
  /-- Interfaces by role. -/
  interfacesCreated : Metrics.Series
  rotations : Nat
deriving DecidableEq

namespace Metrics

/-- Nothing counted, nothing read. -/
def empty : Metrics := ⟨.empty, 0, [], .empty, 0⟩

instance : Inhabited Metrics := ⟨empty⟩

/-! ### Series -/

/-- The value of a series, which is zero before it exists. -/
def Series.value (series : Series) (label : String) : Nat := (series.find? label).getD 0

/-- Makes sure that a series exists. -/
def Series.touch (series : Series) (label : String) : Series :=
  series.insert label (series.value label)

/-- Adds one to a series. -/
def Series.increment (series : Series) (label : String) : Series :=
  series.insert label (series.value label + 1)

/-- The label of an outcome. -/
def outcomeLabel (success : Bool) : String := if success then "success" else "failure"

/-! ### Counting and reading -/

/-- Counts an event. -/
def record (m : Metrics) : Event → Metrics
  | .provision success => { m with provisions := m.provisions.increment (outcomeLabel success) }
  | .svmCreated => { m with svmsCreated := m.svmsCreated + 1 }
  | .readiness attempts => { m with readinessAttempts := attempts :: m.readinessAttempts }
  | .interfaceCreated role =>
    { m with interfacesCreated := m.interfacesCreated.increment role.text }
  | .rotation => { m with rotations := m.rotations + 1 }

/-- The number of runs with an outcome. -/
def provisionCount (m : Metrics) (success : Bool) : Nat := m.provisions.value (outcomeLabel success)

/-- The number of interfaces with a role. -/
def interfaceCount (m : Metrics) (role : Interface.Role) : Nat := m.interfacesCreated.value role.text

/-- Reads the number of runs with an outcome. -/
def readProvisions (m : Metrics) (success : Bool) : Nat × Metrics :=
  (m.provisionCount success, { m with provisions := m.provisions.touch (outcomeLabel success) })

/-- Reads the number of interfaces with a role. -/
def readInterfaces (m : Metrics) (role : Interface.Role) : Nat × Metrics :=
  (m.interfaceCount role, { m with interfacesCreated := m.interfacesCreated.touch role.text })

/-- Reads all counters: runs that succeeded and failed, machines, data and management interfaces, rotations. -/
def readAll (m : Metrics) : List Nat × Metrics :=
  let (succeeded, m) := m.readProvisions true
  let (failed, m) := m.readProvisions false
  let (data, m) := m.readInterfaces .data
  let (management, m) := m.readInterfaces .management
  ([succeeded, failed, m.svmsCreated, data, management, m.rotations], m)

/-- The metrics as they are shown in messages. -/
def shown (m : Metrics) : String :=
  "EngineMetrics \x7b svms_created: " ++ m.svmsCreated.repr ++ ", credential_rotations: " ++
    m.rotations.repr ++ " \x7d"

end Metrics

end TenantStorage
