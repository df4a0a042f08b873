import TenantStorage.Action
import TenantStorage.Json.Domain

/-!
# Planned faults

A simulated run can be given faults: certain calls take time, fail, or return a value without reaching the
system that they are meant for.

* `Simulation.Fault` — a fault, and the calls that it applies to.
* `Simulation.callName` — the name by which faults refer to a kind of call.
* `Simulation.faultFor` — the fault that applies to the n-th call of a kind.
* `Simulation.readAnswer?` — a planned value as the answer to a call.
-/

namespace TenantStorage.Simulation

/-- What a fault makes of a call once its delay is over. -/
inductive Fault.Effect where
  /-- The call goes on to its system. -/
  | pass
  | fail (failure : Failure)
  | answer (value : Json)

/-- A planned fault. -/
structure Fault where
  /-- The name of the kind of call. -/
  call : String
  /-- The number of the call among those of its kind, from 1; any number if missing. -/
  number : Option Nat
  /-- The time that passes first, in milliseconds. -/
  delay : Nat
  effect : Fault.Effect

/-- The name of a kind of call. -/
def callName : Call → String
  | .controller (.svmByName _) => "get_svm_by_name"
  | .controller (.svm _) => "get_svm"
  | .controller (.createSvm _) => "create_svm"
  | .controller .nodes => "list_nodes"
  | .controller .aggregates => "list_aggregates"
  | .controller (.createInterface _) => "create_interface"
  | .controller .peerGroups => "bgp_peer_group_count"
  | .controller (.createAccount _) => "create_account"
  | .controller (.account _ _) => "get_account"
  | .controller (.setPassword _ _ _) => "set_account_password"
  | .secrets (.get _ _) => "secret_get"
  | .secrets (.create _) => "secret_create"
  | .secrets (.replace _) => "secret_replace"

/-- The first fault for the call with a number. -/
def faultFor (faults : List Fault) (name : String) (number : Nat) : Option Fault :=
  faults.find? fun fault => fault.call == name && fault.number.all (· == number)

/-- A value that may be `null`. -/
def orNull? {α : Type} (read : Json → Option α) : Json → Option (Option α)
  | .null => some none
  | value => (read value).map some

/-- Nothing, which is written as `null`. -/
def nothing? (value : Json) : Option Unit := if value.isNull then some () else none

/-- A planned value as the answer to a call. -/
def readAnswer? : (call : Call) → Json → Option call.Answer
  | .controller (.svmByName _), value => orNull? Svm.ofJson? value
  | .controller (.svm _), value => Svm.ofJson? value
  | .controller (.createSvm _), value => nothing? value
  | .controller .nodes, value => value.listOf? Node.ofJson?
  | .controller .aggregates, value => value.listOf? Aggregate.ofJson?
  | .controller (.createInterface _), value => nothing? value
  | .controller .peerGroups, value => value.natural? UInt64.size
  | .controller (.createAccount _), value => nothing? value
  | .controller (.account _ _), value => orNull? Account.ofJson? value
  | .controller (.setPassword _ _ _), value => nothing? value
  | .secrets (.get _ _), value => orNull? SecretRecord.ofJson? value
  | .secrets (.create _), value => nothing? value
  | .secrets (.replace _), value => nothing? value

end TenantStorage.Simulation
