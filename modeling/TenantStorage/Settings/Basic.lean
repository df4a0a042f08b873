import TenantStorage.Settings.Engine
import TenantStorage.Text.Case

/-!
# Settings

* `Settings.Controller` — how the storage controller is reached.
* `Settings.Logging` — what is logged, and in which form.
* `Settings` — all settings, each with a default.
* `Settings.validate` — the engine's settings are looked at before the controller's.
-/

namespace TenantStorage

/-- How the storage controller is reached. -/
structure Settings.Controller where
  /-- The URL of the cluster management interface. -/
  endpoint : String
  username : String
  password : String
  /-- Whether certificates that cannot be verified are accepted. -/
  insecureSkipVerify : Bool
  /-- The time that one request may take. -/
  timeoutSecs : UInt64
deriving DecidableEq, Repr

instance : Inhabited Settings.Controller :=
  ⟨{ endpoint := "https://ontap-cluster-mgmt"
     username := "admin"
     password := ""
     insecureSkipVerify := false
     timeoutSecs := 30 }⟩

/-- What is logged, and in which form. -/
structure Settings.Logging where
  /-- The least severe level that is logged. -/
  level : String
  /-- Whether lines are JSON objects. -/
  json : Bool
deriving DecidableEq, Repr

instance : Inhabited Settings.Logging := ⟨{ level := "info", json := false }⟩

/-- All settings. -/
structure Settings where
  engine : Settings.Engine
  controller : Settings.Controller
  logging : Settings.Logging
deriving DecidableEq, Repr

instance : Inhabited Settings := ⟨⟨default, default, default⟩⟩

namespace Settings

/-- The time that one request may take. -/
def Controller.timeout (controller : Controller) : Duration :=
  .ofSeconds controller.timeoutSecs.toNat

/-- The endpoint has to name one of the two schemes, and requests need some time. -/
def Controller.validate (controller : Controller) : Except Failure Unit := do
  if !(Text.startsWith controller.endpoint "https://" ||
      Text.startsWith controller.endpoint "http://") then
    throw (.configuration ("ontap.endpoint '" ++ controller.endpoint ++ "' must be an http(s) URL"))
  if controller.timeoutSecs = 0 then
    throw (.configuration "ontap.timeoutSecs must be greater than zero")

/-- Refuses settings under which a run could not succeed. -/
def validate (settings : Settings) : Except Failure Unit := do
  settings.engine.validate
  settings.controller.validate

end Settings

end TenantStorage
