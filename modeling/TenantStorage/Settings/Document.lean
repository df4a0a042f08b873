import TenantStorage.Document
import TenantStorage.Json.Basic
import TenantStorage.Settings.Basic

/-!
# Settings in documents

A document may give any part of the settings; what it leaves out has its default, and what the
settings do not know is passed over.

* `Settings.of?` and the readers of the parts.
* `Settings.toJson` and the writers of the parts.  The controller's password is never written.
-/

namespace TenantStorage.Settings

variable {ν : Type} [Document ν]

/-! ### Reading -/

/-- A number of 32 bits. -/
def uint32? (value : ν) : Option UInt32 := (Document.natural? UInt32.size value).map UInt32.ofNat

/-- A number of 64 bits. -/
def uint64? (value : ν) : Option UInt64 := (Document.natural? UInt64.size value).map UInt64.ofNat

/-- Reads labels. -/
def Labels.of? (document : ν) : Option Labels := do
  let fields ← Fields.of? ["partOf", "managedBy", "projectLabelKey"] document
  let base : Labels := default
  return {
    partOf := ← fields.get "partOf" Document.text? base.partOf
    managedBy := ← fields.get "managedBy" Document.text? base.managedBy
    projectLabelKey := ← fields.get "projectLabelKey" Document.text? base.projectLabelKey }

/-- Reads how a new machine is waited for. -/
def Readiness.of? (document : ν) : Option Readiness := do
  let fields ← Fields.of? ["maxAttempts", "maxDelaySecs"] document
  let base : Readiness := default
  return {
    maxAttempts := ← fields.get "maxAttempts" uint32? base.maxAttempts
    maxDelaySecs := ← fields.get "maxDelaySecs" uint64? base.maxDelaySecs }

/-- Reads the engine's settings. -/
def Engine.of? (document : ν) : Option Engine := do
  let fields ← Fields.of? ["secretNamespace", "secretNameTemplate", "adminUsername", "adminRole",
    "dataInterfaceTag", "managementInterfaceTag", "rotateOnMissingSecret", "labels",
    "readiness"] document
  let base : Engine := default
  return {
    secretNamespace := ← fields.get "secretNamespace" Document.text? base.secretNamespace
    secretNameTemplate := ← fields.get "secretNameTemplate" Document.text? base.secretNameTemplate
    adminUsername := ← fields.get "adminUsername" Document.text? base.adminUsername
    adminRole := ← fields.get "adminRole" Document.text? base.adminRole
    dataInterfaceTag := ← fields.get "dataInterfaceTag" Document.text? base.dataInterfaceTag
    managementInterfaceTag :=
      ← fields.get "managementInterfaceTag" Document.text? base.managementInterfaceTag
    rotateOnMissingSecret :=
      ← fields.get "rotateOnMissingSecret" Document.bool? base.rotateOnMissingSecret
    labels := ← fields.get "labels" Labels.of? base.labels
    readiness := ← fields.get "readiness" Readiness.of? base.readiness }

/-- Reads how the storage controller is reached. -/
def Controller.of? (document : ν) : Option Controller := do
  let fields ← Fields.of? ["endpoint", "username", "password", "insecureSkipVerify",
    "timeoutSecs"] document
  let base : Controller := default
  return {
    endpoint := ← fields.get "endpoint" Document.text? base.endpoint
    username := ← fields.get "username" Document.text? base.username
    password := ← fields.get "password" Document.text? base.password
    insecureSkipVerify := ← fields.get "insecureSkipVerify" Document.bool? base.insecureSkipVerify
    timeoutSecs := ← fields.get "timeoutSecs" uint64? base.timeoutSecs }

/-- Reads what is logged. -/
def Logging.of? (document : ν) : Option Logging := do
  let fields ← Fields.of? ["level", "json"] document
  let base : Logging := default
  return {
    level := ← fields.get "level" Document.text? base.level
    json := ← fields.get "json" Document.bool? base.json }

/-- Reads all settings. -/
def of? (document : ν) : Option Settings := do
  let fields ← Fields.of? ["engine", "ontap", "logging"] document
  let base : Settings := default
  return {
    engine := ← fields.get "engine" Engine.of? base.engine
    controller := ← fields.get "ontap" Controller.of? base.controller
    logging := ← fields.get "logging" Logging.of? base.logging }

/-! ### Writing -/

/-- The labels as an object. -/
def Labels.toJson (labels : Labels) : Json := .record [
  ("partOf", .ofText labels.partOf),
  ("managedBy", .ofText labels.managedBy),
  ("projectLabelKey", .ofText labels.projectLabelKey)]

/-- How a new machine is waited for, as an object. -/
def Readiness.toJson (readiness : Readiness) : Json := .record [
  ("maxAttempts", .ofNat readiness.maxAttempts.toNat),
  ("maxDelaySecs", .ofNat readiness.maxDelaySecs.toNat)]

/-- The engine's settings as an object. -/
def Engine.toJson (engine : Engine) : Json := .record [
  ("secretNamespace", .ofText engine.secretNamespace),
  ("secretNameTemplate", .ofText engine.secretNameTemplate),
  ("adminUsername", .ofText engine.adminUsername),
  ("adminRole", .ofText engine.adminRole),
  ("dataInterfaceTag", .ofText engine.dataInterfaceTag),
  ("managementInterfaceTag", .ofText engine.managementInterfaceTag),
  ("rotateOnMissingSecret", .bool engine.rotateOnMissingSecret),
  ("labels", engine.labels.toJson),
  ("readiness", engine.readiness.toJson)]

/-- How the storage controller is reached, as an object without the password. -/
def Controller.toJson (controller : Controller) : Json := .record [
  ("endpoint", .ofText controller.endpoint),
  ("username", .ofText controller.username),
  ("insecureSkipVerify", .bool controller.insecureSkipVerify),
  ("timeoutSecs", .ofNat controller.timeoutSecs.toNat)]

/-- What is logged, as an object. -/
def Logging.toJson (logging : Logging) : Json := .record [
  ("level", .ofText logging.level),
  ("json", .bool logging.json)]

/-- All settings as an object. -/
def toJson (settings : Settings) : Json := .record [
  ("engine", settings.engine.toJson),
  ("ontap", settings.controller.toJson),
  ("logging", settings.logging.toJson)]

end TenantStorage.Settings
