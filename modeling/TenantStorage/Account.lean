import TenantStorage.SortedMap
import TenantStorage.Text.Quoted

/-!
# Accounts and the secrets that hold their passwords

* `Credentials` — a user name with a password.
* `Account.Order` — what an account is created from.
* `Account` — an account as the controller shows it, without its password.
* `SecretRecord` — the copy of the credentials in the control plane.
-/

namespace TenantStorage

/-- A user name with a password. -/
structure Credentials where
  username : String
  password : String
deriving DecidableEq, Repr, Inhabited

namespace Credentials

/-- A password counts only when it is not empty. -/
def hasPassword (c : Credentials) : Bool := c.password != ""

/-- Credentials as they are shown, without the password. -/
def shown (c : Credentials) : String :=
  "Credentials \x7b username: " ++ Text.quote c.username ++ ", password: \"<redacted>\" \x7d"

end Credentials

/-- What an account is created from. -/
structure Account.Order where
  /-- The machine that the account belongs to. -/
  ownerUuid : String
  role : String
  credentials : Credentials
deriving DecidableEq, Repr, Inhabited

/-- An account as the controller shows it. -/
structure Account where
  ownerUuid : String
  username : String
  role : String
  locked : Bool
deriving DecidableEq, Repr, Inhabited

/-- A secret of the control plane that holds credentials. -/
structure SecretRecord where
  /-- The namespace of the secret. -/
  ns : String
  name : String
  labels : SortedMap String String
  credentials : Credentials
deriving DecidableEq, Inhabited

end TenantStorage
