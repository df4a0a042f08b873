import TenantStorage.Action
import TenantStorage.Settings.Engine

/-!
# Keeping account and secret in agreement

The administrative account of a machine lives on the storage controller, a copy of its password in a
secret.

| account | secret                  | what is done                                |
|---------|-------------------------|---------------------------------------------|
| any     | there, with a password  | the stored password is returned             |
| missing | missing or empty        | the account is created, then the secret     |
| there   | missing or empty        | a new password is set, then the secret      |

A secret without a password is filled in where it is; a secret with a password is never written.  The
controller shows no password, so a lost one can only be replaced, which locks out whoever
still uses it.

* `reconcile` — the table above.
* `CredentialOutcome` — what was done.
-/

namespace TenantStorage.Provision

open Engine

/-- How account and secret came to agree. -/
inductive CredentialOutcome where
  /-- The secret had a password. -/
  | reconciled (credentials : Credentials)
  /-- The secret was written; `rotated` tells that the password of an existing account was replaced. -/
  | secretCreated (credentials : Credentials) (rotated : Bool)
deriving DecidableEq, Repr

/-- The credentials that are valid now. -/
def CredentialOutcome.credentials : CredentialOutcome → Credentials
  | reconciled credentials => credentials
  | secretCreated credentials _ => credentials

/-- The identifier of a machine. -/
def requireUuid (svm : Svm) : Except Failure String :=
  match svm.uuid with
  | some uuid => .ok uuid
  | none => .error (.notFound "SvmUuid" svm.name)

/-- Creates the account with a fresh password, which is returned; `none` when the account exists. -/
def createAccount (engine : Settings.Engine) (ownerUuid : String) :
    Attempt (Option String) := ExceptT.mk do
  let fresh ← password
  let order : Account.Order :=
    { ownerUuid, role := engine.adminRole, credentials := ⟨engine.adminUsername, fresh⟩ }
  match ← (controller (.createAccount order)).run with
  | .ok () => return .ok (some fresh)
  | .error failure => if failure.isAlreadyExists then return .ok none else return .error failure

/-- Gives an existing account a fresh password, which is returned, where the settings allow it. -/
def rotatePassword (engine : Settings.Engine) (svmName ownerUuid : String) : Attempt String := do
  match ← controller (.account ownerUuid engine.adminUsername) with
  | none => throw (.internal ("account " ++ engine.adminUsername ++ " on SVM " ++ svmName ++
      " reported as existing but cannot be read"))
  | some _ => pure ()
  if !engine.rotateOnMissingSecret then
    throw (.seedSecretMissing svmName engine.adminUsername)
  let fresh ← password
  controller (.setPassword ownerUuid engine.adminUsername fresh)
  count .rotation
  return fresh

/-- The secret of a project. -/
def projectSecret (engine : Settings.Engine) (project : String) (credentials : Credentials) :
    SecretRecord where
  ns := engine.secretNamespace
  name := engine.secretName project
  labels := engine.labels.forProject project
  credentials := credentials

/-- Writes the secret of a project: over a stale one, or as a new one. -/
def writeSecret (stale : Bool) (record : SecretRecord) : Attempt Unit :=
  if stale then secrets (.replace record) else secrets (.create record)

/-- The password that the account has after this: a fresh one, together with whether it replaced another. -/
def ensureAccount (engine : Settings.Engine) (svmName ownerUuid : String) :
    Attempt (String × Bool) := do
  match ← createAccount engine ownerUuid with
  | some fresh => return (fresh, false)
  | none => return (← rotatePassword engine svmName ownerUuid, true)

/-- Brings account and secret of a project into agreement. -/
def reconcile (engine : Settings.Engine) (project : String) (svm : Svm) :
    Attempt CredentialOutcome := do
  let existing ← secrets (.get engine.secretNamespace (engine.secretName project))
  match existing.filter (·.credentials.hasPassword) with
  | some record => return .reconciled record.credentials
  | none =>
    let ownerUuid ← requireUuid svm
    let (fresh, rotated) ← ensureAccount engine svm.name ownerUuid
    let credentials : Credentials := ⟨engine.adminUsername, fresh⟩
    writeSecret existing.isSome (projectSecret engine project credentials)
    return .secretCreated credentials rotated

end TenantStorage.Provision
