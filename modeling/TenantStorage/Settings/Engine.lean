import TenantStorage.Duration
import TenantStorage.Failure
import TenantStorage.Settings.Template
import TenantStorage.SortedMap
import TenantStorage.Text.Blank

/-!
# Settings of the provisioning engine

* `Settings.Labels` — what every credential secret is labelled with.
* `Settings.Readiness` — how often and how fast a new machine is looked at.
* `Settings.Engine` — names, account and the two above.
* `Settings.Engine.validate` — refuses settings under which a run could not succeed; of several faults
  the first in the order of the fields is reported, after the name template.
-/

namespace TenantStorage.Settings

/-- The fixed labels of credential secrets. -/
structure Labels where
  partOf : String
  managedBy : String
  /-- The key of the label that carries the project's identifier. -/
  projectLabelKey : String
deriving DecidableEq, Repr

instance : Inhabited Labels :=
  ⟨{ partOf := "ontap-svm-provisioner"
     managedBy := "svm-controller"
     projectLabelKey := "ontap.storage.io/project" }⟩

/-- How a new machine is waited for. -/
structure Readiness where
  /-- The number of looks, including the first. -/
  maxAttempts : UInt32
  /-- The pause between two looks. -/
  maxDelaySecs : UInt64
deriving DecidableEq, Repr

instance : Inhabited Readiness := ⟨{ maxAttempts := 10, maxDelaySecs := 5 }⟩

/-- Settings of the provisioning engine. -/
structure Engine where
  /-- The namespace of the credential secrets. -/
  secretNamespace : String
  /-- The names of the credential secrets, as a text with `{project}`. -/
  secretNameTemplate : String
  /-- The account created on every machine. -/
  adminUsername : String
  adminRole : String
  /-- Data interfaces are named by this tag and their index. -/
  dataInterfaceTag : String
  managementInterfaceTag : String
  /-- Whether a new password is set when an account exists without a secret. -/
  rotateOnMissingSecret : Bool
  labels : Labels
  readiness : Readiness
deriving DecidableEq, Repr

instance : Inhabited Engine :=
  ⟨{ secretNamespace := "ontap-system"
     secretNameTemplate := "ontap-svm-\x7bproject\x7d-credentials"
     adminUsername := "vsadmin"
     adminRole := "vsadmin"
     dataInterfaceTag := "data-lif-"
     managementInterfaceTag := "mgmt-lif"
     rotateOnMissingSecret := true
     labels := default
     readiness := default }⟩

/-! ### Labels -/

namespace Labels

/-- The labels of a project's secret.  The project's own label is written last and wins over a fixed
    label with the same key. -/
def forProject (labels : Labels) (project : String) : SortedMap String String :=
  .ofList [
    ("app.kubernetes.io/part-of", labels.partOf),
    ("app.kubernetes.io/managed-by", labels.managedBy),
    (labels.projectLabelKey, project)]

/-- The project's label needs a key. -/
def validate (labels : Labels) : Except Failure Unit :=
  if Text.isBlankText labels.projectLabelKey then
    .error (.configuration "labels.projectLabelKey must not be empty")
  else .ok ()

end Labels

namespace Readiness

/-- The pause between two looks. -/
def maxDelay (readiness : Readiness) : Duration := .ofSeconds readiness.maxDelaySecs.toNat

/-- There has to be at least one look. -/
def validate (readiness : Readiness) : Except Failure Unit :=
  if readiness.maxAttempts = 0 then
    .error (.configuration "readiness.maxAttempts must be at least 1")
  else .ok ()

end Readiness

/-! ### Names and validation -/

namespace Engine

/-- The name of a project's credential secret. -/
def secretName (engine : Engine) (project : String) : String :=
  (Template.ofText engine.secretNameTemplate).fill project

/-- The name of the data interface at `index`. -/
def dataInterfaceName (engine : Engine) (index : Nat) : String :=
  engine.dataInterfaceTag ++ index.repr

/-- The texts that must not be blank, with the names of their fields. -/
def requiredTexts (engine : Engine) : List (String × String) := [
  ("secretNamespace", engine.secretNamespace),
  ("adminUsername", engine.adminUsername),
  ("adminRole", engine.adminRole),
  ("dataInterfaceTag", engine.dataInterfaceTag),
  ("managementInterfaceTag", engine.managementInterfaceTag)]

/-- Refuses settings under which a run could not succeed. -/
def validate (engine : Engine) : Except Failure Unit := do
  if !(Template.ofText engine.secretNameTemplate).hasPlaceholder then
    throw (.configuration ("secretNameTemplate '" ++ engine.secretNameTemplate ++
      "' must contain \x7bproject\x7d"))
  match engine.requiredTexts.find? fun field => Text.isBlankText field.2 with
  | some (field, _) => throw (.configuration (field ++ " must not be empty"))
  | none => pure ()
  engine.labels.validate
  engine.readiness.validate

end Engine

end TenantStorage.Settings
