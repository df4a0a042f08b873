import TenantStorage.Metrics.Basic

/-!
# The exposition format of metrics

Families are written in the order of their names, the series of a family in the order of their labels, one
sample per line.  A family without series is left out.

* `Registry` — a name in front of all family names, and labels on all samples.
* `Metrics.families` — the families with their samples.
* `Metrics.exposition` — the text.
-/

namespace TenantStorage

/-- Where metrics are registered. -/
structure Registry where
  /-- The name in front of all family names. -/
  lead : Option String
  /-- Labels on all samples, after a sample's own label. -/
  labels : List (String × String)
deriving DecidableEq, Repr

instance : Inhabited Registry := ⟨⟨none, []⟩⟩

namespace Registry

/-- A registry; the name in front must not be empty. -/
def new (lead : Option String) (labels : List (String × String)) : Except Failure Registry :=
  if lead = some "" then .error (.metrics (some "empty prefix namespace")) else .ok ⟨lead, labels⟩

/-- The metrics of one engine can be registered once. -/
def registerAgain (_ : Registry) : Failure := .metrics none

end Registry

namespace Metrics

/-- A line of the format: the end of the name, the labels, the value. -/
structure Sample where
  ending : String
  labels : List (String × String)
  value : Nat
deriving DecidableEq, Repr

/-- A family of samples. -/
structure Family where
  name : String
  help : String
  kind : String
  samples : List Sample
deriving DecidableEq, Repr

/-! ### Samples -/

/-- The samples of a labelled counter. -/
def Series.samples (series : Series) (label : String) : List Sample :=
  series.entries.map fun e => ⟨"", [(label, e.1)], e.2⟩

/-- The upper bounds of the histogram's buckets. -/
def readinessBounds : List Nat := [1, 2, 3, 5, 8, 10, 20]

/-- The samples of the histogram.  A bucket counts all observations up to its bound. -/
def readinessSamples (observations : List Nat) : List Sample :=
  let bucket (bound : String) (count : Nat) : Sample := ⟨"_bucket", [("le", bound)], count⟩
  readinessBounds.map (fun bound => bucket bound.repr (observations.countP (· ≤ bound))) ++ [
    bucket "+Inf" observations.length,
    ⟨"_sum", [], observations.foldl (· + ·) 0⟩,
    ⟨"_count", [], observations.length⟩]

/-- All families that have samples, in the order of their names. -/
def families (m : Metrics) : List Family :=
  [ { name := "svm_created_total"
      help := "SVM create requests submitted to the storage controller"
      kind := "counter"
      samples := [⟨"", [], m.svmsCreated⟩] },
    { name := "svm_credential_rotations_total"
      help := "Admin passwords rotated because the mirrored secret was missing"
      kind := "counter"
      samples := [⟨"", [], m.rotations⟩] },
    { name := "svm_interfaces_created_total"
      help := "Network interfaces created by role"
      kind := "counter"
      samples := m.interfacesCreated.samples "role" },
    { name := "svm_provision_total"
      help := "SVM provisioning runs by outcome"
      kind := "counter"
      samples := m.provisions.samples "outcome" },
    { name := "svm_readiness_attempts"
      help := "Readiness probes needed before an SVM became usable"
      kind := "histogram"
      samples := readinessSamples m.readinessAttempts }
  ].filter fun family => !family.samples.isEmpty

/-! ### Text -/

/-- A character of a label's value. -/
def labelChar : Char → List Char
  | '\\' => ['\\', '\\']
  | '"' => ['\\', '"']
  | '\n' => ['\\', 'n']
  | c => [c]

/-- A label with its value. -/
def labelText (label : String × String) : String :=
  label.1 ++ "=\"" ++ String.ofList (label.2.toList.flatMap labelChar) ++ "\""

/-- Labels in braces, or nothing. -/
def labelsText (labels : List (String × String)) : String :=
  if labels.isEmpty then ""
  else "\x7b" ++ String.intercalate "," (labels.map labelText) ++ "\x7d"

/-- The labels of a sample in a registry.  The bound of a bucket comes last. -/
def Sample.allLabels (sample : Sample) (registry : Registry) : List (String × String) :=
  if sample.ending = "_bucket" then registry.labels ++ sample.labels
  else sample.labels ++ registry.labels

/-- The name of a family in a registry. -/
def familyName (registry : Registry) (family : Family) : String :=
  match registry.lead with
  | none => family.name
  | some lead => lead ++ "_" ++ family.name

/-- The lines of a family. -/
def familyText (registry : Registry) (family : Family) : String :=
  let name := familyName registry family
  "# HELP " ++ name ++ " " ++ family.help ++ "\n# TYPE " ++ name ++ " " ++ family.kind ++ "\n" ++
    String.join (family.samples.map fun sample =>
      name ++ sample.ending ++ labelsText (sample.allLabels registry) ++ " " ++ sample.value.repr ++
        "\n")

/-- The names of all families that have samples. -/
def familyNames (m : Metrics) (registry : Registry) : List String :=
  m.families.map (familyName registry)

/-- The metrics in the exposition format. -/
def exposition (m : Metrics) (registry : Registry) : String :=
  String.join (m.families.map (familyText registry))

end Metrics

end TenantStorage
