import TenantStorage.Text.Case

/-!
# Storage virtual machines

A storage virtual machine (SVM) is the partition of a storage cluster that serves one tenant.

* `Svm.State` — the lifecycle state, read from the controller's word by `Svm.State.parse`.
* `Svm` — a machine as the controller shows it.
* `Svm.isReady` — it has an identifier, runs, and serves NVMe.
* `Svm.condition` — in words, what is missing.
* `Svm.Order` — what a machine is created from.
-/

namespace TenantStorage

/-- The lifecycle state of a machine. -/
inductive Svm.State where
  | creating
  | running
  /-- Any other state, under the controller's word for it. -/
  | other (word : String)
deriving DecidableEq, Repr, Inhabited

/-- A storage virtual machine as the controller shows it. -/
structure Svm where
  name : String
  /-- Missing until the controller has assigned one. -/
  uuid : Option String
  state : Svm.State
  nvmeEnabled : Bool
  /-- Names of the aggregates that back the machine. -/
  aggregates : List String
deriving DecidableEq, Repr, Inhabited

/-- What a machine is created from. -/
structure Svm.Order where
  name : String
  /-- All aggregates of the cluster; the controller chooses among them. -/
  aggregates : List String
  nvmeEnabled : Bool
deriving DecidableEq, Repr, Inhabited

namespace Svm

/-- Reads the controller's word for a state, in any letter case. -/
def State.parse (word : String) : State :=
  match Text.lower word with
  | "creating" => .creating
  | "initializing" => .creating
  | "running" => .running
  | lowered => .other lowered

/-- The word for a state. -/
def State.text : State → String
  | .creating => "creating"
  | .running => "running"
  | .other word => word

/-- A machine is ready when it has an identifier, runs, and serves NVMe. -/
def isReady (svm : Svm) : Bool :=
  svm.uuid.isSome && svm.state == .running && svm.nvmeEnabled

/-- Why a machine is not ready. -/
def condition (svm : Svm) : String :=
  match svm.uuid, svm.state, svm.nvmeEnabled with
  | none, _, _ => "svm " ++ svm.name ++ " has no uuid yet"
  | some _, .running, false => "svm " ++ svm.name ++ " is running but nvme is not enabled"
  | some _, state, _ => "svm " ++ svm.name ++ " is in state " ++ state.text

end Svm

end TenantStorage
