import TenantStorage.Json.Domain
import TenantStorage.Proofs.Json
import TenantStorage.Proofs.Records
import TenantStorage.Settings.Document

namespace TenantStorage.Settings

/-!
# Partial settings

A document gives some of the settings, in any nesting and order, and what it does not give keeps its default.

* `Labels.Partial` and the other partial records — settings of which any may be left out.
* `Labels.Partial.over` and the others — given settings in place of those of a base.
* `Labels.Partial.WrittenIn` and the others — the mappings that give just these settings, among unknown keys.
* `Labels.of?_writtenIn` and the others — what such a mapping is read as, one level above the other.
* `Labels.written` and the others — the settings that are written: all but the controller's password.
* `of?_over` — a document is read as the defaults with what it gives in their place.
-/

open Fields (Mapping Reads)

variable {ν : Type} [Document ν]

/-! ### Written records -/

/-- An object with just the members that are asked for is a mapping with them. -/
theorem mapping_record {asked : List (String × Option (Json → Prop))} {members : List (String × Json)}
    (h : Fields.Listed asked (Json.membersOf members)) : Mapping asked (Json.record members) :=
  ⟨_, _, [], rfl, h, nofun, by rw [List.append_nil]; rfl⟩

theorem reads_uint32 (n : UInt32) : Reads uint32? n (Json.ofNat n.toNat) := by
  have hlt : n.toNat < UInt32.size := n.toNat_lt_size
  simp [Reads, uint32?, Document.natural?, Json.natural?, Json.ofNat, hlt]

theorem reads_uint64 (n : UInt64) : Reads uint64? n (Json.ofNat n.toNat) := by
  have hlt : n.toNat < UInt64.size := n.toNat_lt_size
  simp [Reads, uint64?, Document.natural?, Json.natural?, Json.ofNat, hlt]

/-! ### Labels -/

namespace Labels

/-- Some of the labels. -/
structure Partial where
  partOf : Option String := none
  managedBy : Option String := none
  projectLabelKey : Option String := none

/-- The given labels in place of those of a base. -/
def Partial.over (given : Partial) (base : Labels) : Labels where
  partOf := given.partOf.getD base.partOf
  managedBy := given.managedBy.getD base.managedBy
  projectLabelKey := given.projectLabelKey.getD base.projectLabelKey

/-- The mappings that give just these labels. -/
def Partial.WrittenIn (given : Partial) (document : ν) : Prop := Mapping [
  ("partOf", given.partOf.map (Reads Document.text?)),
  ("managedBy", given.managedBy.map (Reads Document.text?)),
  ("projectLabelKey", given.projectLabelKey.map (Reads Document.text?))] document

theorem of?_writtenIn {given : Partial} {document : ν} (h : given.WrittenIn document) :
    of? document = some (given.over default) := by
  obtain ⟨fields, hof, hmeets⟩ := h.exists_fields ["partOf", "managedBy", "projectLabelKey"] rfl (by decide)
  have hpartOf := Fields.get_eq_getD (hmeets "partOf" rfl) (default : Labels).partOf
  have hmanagedBy := Fields.get_eq_getD (hmeets "managedBy" rfl) (default : Labels).managedBy
  have hprojectLabelKey := Fields.get_eq_getD (hmeets "projectLabelKey" rfl) (default : Labels).projectLabelKey
  simp only [of?, hof, hpartOf, hmanagedBy, hprojectLabelKey, Option.bind_eq_bind, Option.bind_some]
  rfl

/-- The labels that are written: all. -/
def written (labels : Labels) : Partial :=
  ⟨some labels.partOf, some labels.managedBy, some labels.projectLabelKey⟩

theorem written_writtenIn (labels : Labels) : labels.written.WrittenIn labels.toJson :=
  mapping_record (.present _ rfl (.present _ rfl (.present _ rfl .nil)))

theorem plain_toJson (labels : Labels) : labels.toJson.Plain := .record (by simp [Json.Plain.text])

end Labels

/-! ### Waiting -/

namespace Readiness

/-- Some of the settings for waiting. -/
structure Partial where
  maxAttempts : Option UInt32 := none
  maxDelaySecs : Option UInt64 := none

/-- The given settings in place of those of a base. -/
def Partial.over (given : Partial) (base : Readiness) : Readiness where
  maxAttempts := given.maxAttempts.getD base.maxAttempts
  maxDelaySecs := given.maxDelaySecs.getD base.maxDelaySecs

/-- The mappings that give just these settings. -/
def Partial.WrittenIn (given : Partial) (document : ν) : Prop := Mapping [
  ("maxAttempts", given.maxAttempts.map (Reads uint32?)),
  ("maxDelaySecs", given.maxDelaySecs.map (Reads uint64?))] document

theorem of?_writtenIn {given : Partial} {document : ν} (h : given.WrittenIn document) :
    of? document = some (given.over default) := by
  obtain ⟨fields, hof, hmeets⟩ := h.exists_fields ["maxAttempts", "maxDelaySecs"] rfl (by decide)
  have hmaxAttempts := Fields.get_eq_getD (hmeets "maxAttempts" rfl) (default : Readiness).maxAttempts
  have hmaxDelaySecs := Fields.get_eq_getD (hmeets "maxDelaySecs" rfl) (default : Readiness).maxDelaySecs
  simp only [of?, hof, hmaxAttempts, hmaxDelaySecs, Option.bind_eq_bind, Option.bind_some]
  rfl

/-- The settings that are written: all. -/
def written (readiness : Readiness) : Partial := ⟨some readiness.maxAttempts, some readiness.maxDelaySecs⟩

theorem written_writtenIn (readiness : Readiness) : readiness.written.WrittenIn readiness.toJson :=
  mapping_record (.present _ (reads_uint32 _) (.present _ (reads_uint64 _) .nil))

theorem plain_toJson (readiness : Readiness) : readiness.toJson.Plain := .record (by simp [Json.plain_ofNat])

end Readiness

/-! ### Engine -/

namespace Engine

/-- Some of the engine's settings. -/
structure Partial where
  secretNamespace : Option String := none
  secretNameTemplate : Option String := none
  adminUsername : Option String := none
  adminRole : Option String := none
  dataInterfaceTag : Option String := none
  managementInterfaceTag : Option String := none
  rotateOnMissingSecret : Option Bool := none
  labels : Option Labels.Partial := none
  readiness : Option Readiness.Partial := none

/-- The given settings in place of those of a base. -/
def Partial.over (given : Partial) (base : Engine) : Engine where
  secretNamespace := given.secretNamespace.getD base.secretNamespace
  secretNameTemplate := given.secretNameTemplate.getD base.secretNameTemplate
  adminUsername := given.adminUsername.getD base.adminUsername
  adminRole := given.adminRole.getD base.adminRole
  dataInterfaceTag := given.dataInterfaceTag.getD base.dataInterfaceTag
  managementInterfaceTag := given.managementInterfaceTag.getD base.managementInterfaceTag
  rotateOnMissingSecret := given.rotateOnMissingSecret.getD base.rotateOnMissingSecret
  labels := (given.labels.map (·.over base.labels)).getD base.labels
  readiness := (given.readiness.map (·.over base.readiness)).getD base.readiness

/-- The mappings that give just these settings. -/
def Partial.WrittenIn (given : Partial) (document : ν) : Prop := Mapping [
  ("secretNamespace", given.secretNamespace.map (Reads Document.text?)),
  ("secretNameTemplate", given.secretNameTemplate.map (Reads Document.text?)),
  ("adminUsername", given.adminUsername.map (Reads Document.text?)),
  ("adminRole", given.adminRole.map (Reads Document.text?)),
  ("dataInterfaceTag", given.dataInterfaceTag.map (Reads Document.text?)),
  ("managementInterfaceTag", given.managementInterfaceTag.map (Reads Document.text?)),
  ("rotateOnMissingSecret", given.rotateOnMissingSecret.map (Reads Document.bool?)),
  ("labels", given.labels.map Labels.Partial.WrittenIn),
  ("readiness", given.readiness.map Readiness.Partial.WrittenIn)] document

theorem of?_writtenIn {given : Partial} {document : ν} (h : given.WrittenIn document) :
    of? document = some (given.over default) := by
  obtain ⟨fields, hof, hmeets⟩ := h.exists_fields ["secretNamespace", "secretNameTemplate", "adminUsername",
    "adminRole", "dataInterfaceTag", "managementInterfaceTag", "rotateOnMissingSecret", "labels", "readiness"] rfl
    (by decide)
  have hsecretNamespace := Fields.get_eq_getD (hmeets "secretNamespace" rfl) (default : Engine).secretNamespace
  have hsecretNameTemplate :=
    Fields.get_eq_getD (hmeets "secretNameTemplate" rfl) (default : Engine).secretNameTemplate
  have hadminUsername := Fields.get_eq_getD (hmeets "adminUsername" rfl) (default : Engine).adminUsername
  have hadminRole := Fields.get_eq_getD (hmeets "adminRole" rfl) (default : Engine).adminRole
  have hdataInterfaceTag := Fields.get_eq_getD (hmeets "dataInterfaceTag" rfl) (default : Engine).dataInterfaceTag
  have hmanagementInterfaceTag :=
    Fields.get_eq_getD (hmeets "managementInterfaceTag" rfl) (default : Engine).managementInterfaceTag
  have hrotateOnMissingSecret :=
    Fields.get_eq_getD (hmeets "rotateOnMissingSecret" rfl) (default : Engine).rotateOnMissingSecret
  -- the two parts are records of their own, read as they are given over their defaults
  have hlabels := Fields.get_eq (hmeets "labels" rfl) (fun _ _ => Labels.of?_writtenIn) (default : Engine).labels
  have hreadiness :=
    Fields.get_eq (hmeets "readiness" rfl) (fun _ _ => Readiness.of?_writtenIn) (default : Engine).readiness
  simp only [of?, hof, hsecretNamespace, hsecretNameTemplate, hadminUsername, hadminRole, hdataInterfaceTag,
    hmanagementInterfaceTag, hrotateOnMissingSecret, hlabels, hreadiness, Option.bind_eq_bind, Option.bind_some]
  rfl

/-- The settings that are written: all. -/
def written (engine : Engine) : Partial where
  secretNamespace := some engine.secretNamespace
  secretNameTemplate := some engine.secretNameTemplate
  adminUsername := some engine.adminUsername
  adminRole := some engine.adminRole
  dataInterfaceTag := some engine.dataInterfaceTag
  managementInterfaceTag := some engine.managementInterfaceTag
  rotateOnMissingSecret := some engine.rotateOnMissingSecret
  labels := some engine.labels.written
  readiness := some engine.readiness.written

theorem written_writtenIn (engine : Engine) : engine.written.WrittenIn engine.toJson :=
  mapping_record (.present _ rfl (.present _ rfl (.present _ rfl (.present _ rfl (.present _ rfl (.present _ rfl
    (.present _ rfl (.present _ engine.labels.written_writtenIn
      (.present _ engine.readiness.written_writtenIn .nil)))))))))

theorem plain_toJson (engine : Engine) : engine.toJson.Plain :=
  .record (by simp [Json.Plain.text, Json.Plain.bool, Labels.plain_toJson, Readiness.plain_toJson])

end Engine

/-! ### Controller -/

namespace Controller

/-- Some of the settings for the controller. -/
structure Partial where
  endpoint : Option String := none
  username : Option String := none
  password : Option String := none
  insecureSkipVerify : Option Bool := none
  timeoutSecs : Option UInt64 := none

/-- The given settings in place of those of a base. -/
def Partial.over (given : Partial) (base : Controller) : Controller where
  endpoint := given.endpoint.getD base.endpoint
  username := given.username.getD base.username
  password := given.password.getD base.password
  insecureSkipVerify := given.insecureSkipVerify.getD base.insecureSkipVerify
  timeoutSecs := given.timeoutSecs.getD base.timeoutSecs

/-- The mappings that give just these settings. -/
def Partial.WrittenIn (given : Partial) (document : ν) : Prop := Mapping [
  ("endpoint", given.endpoint.map (Reads Document.text?)),
  ("username", given.username.map (Reads Document.text?)),
  ("password", given.password.map (Reads Document.text?)),
  ("insecureSkipVerify", given.insecureSkipVerify.map (Reads Document.bool?)),
  ("timeoutSecs", given.timeoutSecs.map (Reads uint64?))] document

theorem of?_writtenIn {given : Partial} {document : ν} (h : given.WrittenIn document) :
    of? document = some (given.over default) := by
  obtain ⟨fields, hof, hmeets⟩ := h.exists_fields ["endpoint", "username", "password", "insecureSkipVerify",
    "timeoutSecs"] rfl (by decide)
  have hendpoint := Fields.get_eq_getD (hmeets "endpoint" rfl) (default : Controller).endpoint
  have husername := Fields.get_eq_getD (hmeets "username" rfl) (default : Controller).username
  have hpassword := Fields.get_eq_getD (hmeets "password" rfl) (default : Controller).password
  have hinsecureSkipVerify :=
    Fields.get_eq_getD (hmeets "insecureSkipVerify" rfl) (default : Controller).insecureSkipVerify
  have htimeoutSecs := Fields.get_eq_getD (hmeets "timeoutSecs" rfl) (default : Controller).timeoutSecs
  simp only [of?, hof, hendpoint, husername, hpassword, hinsecureSkipVerify, htimeoutSecs, Option.bind_eq_bind,
    Option.bind_some]
  rfl

/-- The settings that are written: all but the password. -/
def written (controller : Controller) : Partial where
  endpoint := some controller.endpoint
  username := some controller.username
  insecureSkipVerify := some controller.insecureSkipVerify
  timeoutSecs := some controller.timeoutSecs

theorem written_writtenIn (controller : Controller) : controller.written.WrittenIn controller.toJson :=
  -- the third field, the password, is absent
  mapping_record (.present _ rfl (.present _ rfl (.absent _ (.present _ rfl (.present _ (reads_uint64 _) .nil)))))

theorem plain_toJson (controller : Controller) : controller.toJson.Plain :=
  .record (by simp [Json.Plain.text, Json.Plain.bool, Json.plain_ofNat])

end Controller

/-! ### Logging -/

namespace Logging

/-- Some of the settings for logging. -/
structure Partial where
  level : Option String := none
  json : Option Bool := none

/-- The given settings in place of those of a base. -/
def Partial.over (given : Partial) (base : Logging) : Logging where
  level := given.level.getD base.level
  json := given.json.getD base.json

/-- The mappings that give just these settings. -/
def Partial.WrittenIn (given : Partial) (document : ν) : Prop := Mapping [
  ("level", given.level.map (Reads Document.text?)),
  ("json", given.json.map (Reads Document.bool?))] document

theorem of?_writtenIn {given : Partial} {document : ν} (h : given.WrittenIn document) :
    of? document = some (given.over default) := by
  obtain ⟨fields, hof, hmeets⟩ := h.exists_fields ["level", "json"] rfl (by decide)
  have hlevel := Fields.get_eq_getD (hmeets "level" rfl) (default : Logging).level
  have hjson := Fields.get_eq_getD (hmeets "json" rfl) (default : Logging).json
  simp only [of?, hof, hlevel, hjson, Option.bind_eq_bind, Option.bind_some]
  rfl

/-- The settings that are written: all. -/
def written (logging : Logging) : Partial := ⟨some logging.level, some logging.json⟩

theorem written_writtenIn (logging : Logging) : logging.written.WrittenIn logging.toJson :=
  mapping_record (.present _ rfl (.present _ rfl .nil))

theorem plain_toJson (logging : Logging) : logging.toJson.Plain :=
  .record (by simp [Json.Plain.text, Json.Plain.bool])

end Logging

/-! ### All settings -/

/-- Some of the settings. -/
structure Partial where
  engine : Option Engine.Partial := none
  controller : Option Controller.Partial := none
  logging : Option Logging.Partial := none

/-- The given settings in place of those of a base. -/
def Partial.over (given : Partial) (base : Settings) : Settings where
  engine := (given.engine.map (·.over base.engine)).getD base.engine
  controller := (given.controller.map (·.over base.controller)).getD base.controller
  logging := (given.logging.map (·.over base.logging)).getD base.logging

/-- The mappings that give just these settings. -/
def Partial.WrittenIn (given : Partial) (document : ν) : Prop := Mapping [
  ("engine", given.engine.map Engine.Partial.WrittenIn),
  ("ontap", given.controller.map Controller.Partial.WrittenIn),
  ("logging", given.logging.map Logging.Partial.WrittenIn)] document

theorem of?_writtenIn {given : Partial} {document : ν} (h : given.WrittenIn document) :
    of? document = some (given.over default) := by
  obtain ⟨fields, hof, hmeets⟩ := h.exists_fields ["engine", "ontap", "logging"] rfl (by decide)
  have hengine := Fields.get_eq (hmeets "engine" rfl) (fun _ _ => Engine.of?_writtenIn) (default : Settings).engine
  have hcontroller :=
    Fields.get_eq (hmeets "ontap" rfl) (fun _ _ => Controller.of?_writtenIn) (default : Settings).controller
  have hlogging :=
    Fields.get_eq (hmeets "logging" rfl) (fun _ _ => Logging.of?_writtenIn) (default : Settings).logging
  simp only [of?, hof, hengine, hcontroller, hlogging, Option.bind_eq_bind, Option.bind_some]
  rfl

/-- The settings that are written. -/
def written (settings : Settings) : Partial where
  engine := some settings.engine.written
  controller := some settings.controller.written
  logging := some settings.logging.written

theorem written_writtenIn (settings : Settings) : settings.written.WrittenIn settings.toJson :=
  mapping_record (.present _ settings.engine.written_writtenIn (.present _ settings.controller.written_writtenIn
    (.present _ settings.logging.written_writtenIn .nil)))

theorem plain_toJson (settings : Settings) : settings.toJson.Plain :=
  .record (by simp [Engine.plain_toJson, Controller.plain_toJson, Logging.plain_toJson])

/-- **A document is read as the defaults with what it gives in their place**, at every level.  Neither the order of
    keys nor unknown keys matter, nor the format.  Settings are read back from what is written of them, but for the
    password of the controller. -/
theorem of?_over :
    (∀ {ν : Type} [Document ν] (given : Partial) (document : ν), given.WrittenIn document →
      of? document = some (given.over default)) ∧
    (∀ {ν ν' : Type} [Document ν] [Document ν'] (given : Partial) (document : ν) (document' : ν'),
      given.WrittenIn document → given.WrittenIn document' → of? document = of? document') ∧
    ∀ settings : Settings,
      of? settings.toJson =
          some { settings with controller := { settings.controller with password := "" } } ∧
        Json.parse? settings.toJson.print = some settings.toJson := by
  refine ⟨fun _ _ => of?_writtenIn, fun _ _ _ h h' => ?_, fun settings => ⟨?_, ?_⟩⟩
  · rw [of?_writtenIn h, of?_writtenIn h']
  · -- without a given password, the default stays, which is empty
    calc
      of? settings.toJson = some (settings.written.over default) := of?_writtenIn settings.written_writtenIn
      _ = _ := rfl
  · exact Json.parse?_print settings.plain_toJson

/-- Two of the settings, in an object with foreign members and the parts in another order, and in one without. -/
theorem of?_over_scattered :
    of? (Json.record [
        ("logging", .record [("file", .ofText "log"), ("json", .bool true)]),
        ("engine", .record [("adminUsername", .ofText "svmadmin")]),
        ("colour", .null)]) =
      some { (default : Settings) with
        engine := { (default : Engine) with adminUsername := "svmadmin" }
        logging := { (default : Logging) with json := true } } ∧
    of? (Json.record [
        ("logging", .record [("file", .ofText "log"), ("json", .bool true)]),
        ("engine", .record [("adminUsername", .ofText "svmadmin")]),
        ("colour", .null)]) =
      of? (Json.record [
        ("engine", .record [("adminUsername", .ofText "svmadmin")]),
        ("logging", .record [("json", .bool true)])]) := by
  -- the parts by themselves, one of them with a foreign member in front
  have hengine : Engine.Partial.WrittenIn { adminUsername := some "svmadmin" }
      (Json.record [("adminUsername", .ofText "svmadmin")]) :=
    mapping_record (.absent _ (.absent _ (.present _ rfl (.absent _ (.absent _ (.absent _ (.absent _
      (.absent _ (.absent _ .nil)))))))))
  have hlogging : Logging.Partial.WrittenIn { json := some true } (Json.record [("json", .bool true)]) :=
    mapping_record (.absent _ (.present _ rfl .nil))
  have hforeign : Logging.Partial.WrittenIn { json := some true }
      (Json.record [("file", .ofText "log"), ("json", .bool true)]) :=
    ⟨_, [(some "json", .bool true)], [(some "file", .ofText "log")], rfl, .absent _ (.present _ rfl .nil),
      by simp, .swap _ _ _⟩
  have hordered : Partial.WrittenIn
      { engine := some { adminUsername := some "svmadmin" }, logging := some { json := some true } }
      (Json.record [
        ("engine", .record [("adminUsername", .ofText "svmadmin")]),
        ("logging", .record [("json", .bool true)])]) :=
    mapping_record (.present _ hengine (.absent _ (.present _ hlogging .nil)))
  have hscattered : Partial.WrittenIn
      { engine := some { adminUsername := some "svmadmin" }, logging := some { json := some true } }
      (Json.record [
        ("logging", .record [("file", .ofText "log"), ("json", .bool true)]),
        ("engine", .record [("adminUsername", .ofText "svmadmin")]),
        ("colour", .null)]) :=
    ⟨_, _, [(some "colour", .null)], rfl, .present _ hengine (.absent _ (.present _ hforeign .nil)), by simp,
      .swap _ _ _⟩
  exact ⟨of?_over.1 _ _ hscattered, of?_over.2.1 _ _ _ hscattered hordered⟩

end TenantStorage.Settings
