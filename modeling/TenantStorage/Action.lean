import TenantStorage.Account
import TenantStorage.Cluster
import TenantStorage.Duration
import TenantStorage.Failure
import TenantStorage.Program
import TenantStorage.Svm

/-!
# What the engine asks of its surroundings

The engine drives two systems, a storage controller and a store of secrets, and has no other effect than
the actions listed here.

* `ControllerCall`, `SecretCall`, `Call` — the calls to the two systems.
* `Event` — what is counted.
* `Action` — calls, pauses, a look at the cancellation, fresh passwords, and counting.
* `Engine` — programs over actions; `Attempt` — those that may fail.
-/

namespace TenantStorage

/-! ### Calls -/

/-- A call to the storage controller. -/
inductive ControllerCall where
  | svmByName (name : String)
  | svm (uuid : String)
  | createSvm (order : Svm.Order)
  | nodes
  | aggregates
  | createInterface (interface : Interface)
  /-- The number of BGP peer groups of the cluster. -/
  | peerGroups
  | createAccount (order : Account.Order)
  | account (ownerUuid username : String)
  | setPassword (ownerUuid username password : String)
deriving DecidableEq, Repr

/-- What a successful call to the storage controller returns. -/
abbrev ControllerCall.Answer : ControllerCall → Type
  | svmByName _ => Option Svm
  | svm _ => Svm
  | createSvm _ => Unit
  | nodes => List Node
  | aggregates => List Aggregate
  | createInterface _ => Unit
  | peerGroups => Nat
  | createAccount _ => Unit
  | account _ _ => Option Account
  | setPassword _ _ _ => Unit

/-- A call to the store of secrets. -/
inductive SecretCall where
  | get (ns name : String)
  | create (record : SecretRecord)
  | replace (record : SecretRecord)
deriving DecidableEq

/-- What a successful call to the store of secrets returns. -/
abbrev SecretCall.Answer : SecretCall → Type
  | get _ _ => Option SecretRecord
  | create _ => Unit
  | replace _ => Unit

/-- A call to one of the two systems. -/
inductive Call where
  | controller (call : ControllerCall)
  | secrets (call : SecretCall)
deriving DecidableEq

/-- What a successful call returns. -/
abbrev Call.Answer : Call → Type
  | controller call => call.Answer
  | secrets call => call.Answer

/-! ### Actions -/

/-- What is counted while the engine works. -/
inductive Event where
  /-- A run ended. -/
  | provision (success : Bool)
  /-- The controller accepted the order for a machine. -/
  | svmCreated
  /-- A wait for a machine ended after so many looks. -/
  | readiness (attempts : Nat)
  | interfaceCreated (role : Interface.Role)
  /-- The password of an existing account was replaced. -/
  | rotation
deriving DecidableEq, Repr

/-- One thing that the engine asks of its surroundings. -/
inductive Action where
  | call (call : Call)
  /-- A call that is given up when the cancellation arrives first. -/
  | watch (call : Call)
  /-- A pause that is given up when the cancellation arrives first. -/
  | pause (duration : Duration)
  /-- Whether the cancellation has arrived. -/
  | cancelled
  /-- A fresh password. -/
  | password
  | count (event : Event)
deriving DecidableEq

/-- The answer to an action.  What is given up is answered by `none` or `false`. -/
abbrev Action.Answer : Action → Type
  | call c => Except Failure c.Answer
  | watch c => Option (Except Failure c.Answer)
  | pause _ => Bool
  | cancelled => Bool
  | password => String
  | count _ => Unit

/-- The actions as operations of programs. -/
def actions : Signature := ⟨Action, Action.Answer⟩

/-- A program that acts on the surroundings of the engine. -/
abbrev Engine := Program actions

/-- A program that may end with a failure. -/
abbrev Attempt := ExceptT Failure Engine

namespace Engine

/-- Calls a system and passes a failure on. -/
def call (c : Call) : Attempt c.Answer := ExceptT.mk (Program.perform (S := actions) (.call c))

/-- Calls the storage controller and passes a failure on. -/
def controller (c : ControllerCall) : Attempt c.Answer := call (.controller c)

/-- Calls the store of secrets and passes a failure on. -/
def secrets (c : SecretCall) : Attempt c.Answer := call (.secrets c)

/-- Calls a system unless the cancellation arrives first. -/
def watch (c : Call) : Engine (Option (Except Failure c.Answer)) :=
  Program.perform (S := actions) (.watch c)

/-- Takes a fresh password. -/
def password : Engine String := Program.perform (S := actions) .password

/-- Counts an event. -/
def count (event : Event) : Engine Unit := Program.perform (S := actions) (.count event)

/-- Says of a failure in which project and at which step it happened. -/
def within {α : Type} (project operation : String) (attempt : Attempt α) : Attempt α :=
  ExceptT.mk (attempt.run >>= fun result => pure (result.mapError (.context project operation)))

end Engine

end TenantStorage
