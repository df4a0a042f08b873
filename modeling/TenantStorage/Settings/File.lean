import TenantStorage.Octets.Utf8
import TenantStorage.Settings.Document
import TenantStorage.Yaml.Basic

/-!
# Settings from a file

* `Settings.ofYaml` — settings from a YAML text, which are validated.
* `Settings.ofFile` — settings from what stands at a path.
-/

namespace TenantStorage

/-- What may stand at a path. -/
inductive FileEntry where
  | missing
  | directory
  | file (content : List UInt8)
deriving DecidableEq, Repr

namespace FileEntry

/-- The text of a file. -/
def readText : FileEntry → Except Failure String
  | missing => throw (.io "No such file or directory (os error 2)")
  | directory => throw (.io "Is a directory (os error 21)")
  | file content =>
    match Utf8.decode? content with
    | some text => return text
    | none => throw (.io "stream did not contain valid UTF-8")

end FileEntry

namespace Settings

/-- Reads settings from a YAML text and validates them. -/
def ofYaml (text : String) : Except Failure Settings := do
  match (Yaml.parse? text).bind Settings.of? with
  | none => throw .yamlParse
  | some settings =>
    settings.validate
    return settings

/-- Reads settings from what stands at a path and validates them. -/
def ofFile (entry : FileEntry) : Except Failure Settings := do ofYaml (← entry.readText)

end Settings

end TenantStorage
