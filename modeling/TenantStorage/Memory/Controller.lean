import TenantStorage.Action

/-!
# A storage controller in memory

A controller that behaves like a real cluster as far as the engine can tell: names are unique per kind, a new
machine comes up only after it has been looked at by identifier a number of times, and every call is
tallied.

* `MemoryController` — the state; `MemoryController.initial` has one aggregate and no nodes.
* `withNodes`, `withRunningSvm`, … — ways to prepare it.
* `MemoryController.perform` — the answer to a call, and the state after it.
-/

namespace TenantStorage

/-- The number of calls of each kind. -/
structure CallTally where
  svmNameLookups : Nat
  svmUuidLookups : Nat
  svmCreates : Nat
  nodeLists : Nat
  aggregateLists : Nat
  interfaceCreates : Nat
  peerGroupProbes : Nat
  accountCreates : Nat
  accountLookups : Nat
  passwordRotations : Nat
deriving DecidableEq, Repr

instance : Inhabited CallTally := ⟨⟨0, 0, 0, 0, 0, 0, 0, 0, 0, 0⟩⟩

/-- The tally after one more call. -/
def CallTally.add (tally : CallTally) : ControllerCall → CallTally
  | .svmByName _ => { tally with svmNameLookups := tally.svmNameLookups + 1 }
  | .svm _ => { tally with svmUuidLookups := tally.svmUuidLookups + 1 }
  | .createSvm _ => { tally with svmCreates := tally.svmCreates + 1 }
  | .nodes => { tally with nodeLists := tally.nodeLists + 1 }
  | .aggregates => { tally with aggregateLists := tally.aggregateLists + 1 }
  | .createInterface _ => { tally with interfaceCreates := tally.interfaceCreates + 1 }
  | .peerGroups => { tally with peerGroupProbes := tally.peerGroupProbes + 1 }
  | .createAccount _ => { tally with accountCreates := tally.accountCreates + 1 }
  | .account _ _ => { tally with accountLookups := tally.accountLookups + 1 }
  | .setPassword _ _ _ => { tally with passwordRotations := tally.passwordRotations + 1 }

/-- The tally in the order of its fields. -/
def CallTally.toList (t : CallTally) : List Nat :=
  [t.svmNameLookups, t.svmUuidLookups, t.svmCreates, t.nodeLists, t.aggregateLists,
    t.interfaceCreates, t.peerGroupProbes, t.accountCreates, t.accountLookups, t.passwordRotations]

/-- A machine with the number of times that it has been looked at by identifier. -/
structure MemoryController.Machine where
  svm : Svm
  lookups : Nat
deriving DecidableEq, Repr

/-- What the controller knows of an account. -/
structure MemoryController.Login where
  role : String
  password : String
deriving DecidableEq, Repr

/-- A storage controller in memory. -/
structure MemoryController where
  nodes : List Node
  aggregates : List Aggregate
  peerGroups : Nat
  /-- Machines by name. -/
  machines : SortedMap String MemoryController.Machine
  /-- The accepted orders for machines. -/
  orders : List Svm.Order
  interfaces : List Interface
  /-- Accounts by the identifier of their machine and the user name. -/
  accounts : SortedMap KeyPair MemoryController.Login
  tally : CallTally
  /-- How many machines have been given an identifier. -/
  assigned : Nat
  /-- The look by identifier at which a new machine runs; `none` for never. -/
  runningAfter : Option Nat
  /-- The look by identifier at which a new machine serves NVMe, if it is not the one at which it runs. -/
  nvmeAfter : Option Nat
  /-- The names of interfaces that cannot be created. -/
  failingInterfaces : List String
deriving DecidableEq

namespace MemoryController

/-! ### Preparing a controller -/

/-- Aggregates with the given names. -/
def namedAggregates (names : List String) : List Aggregate :=
  names.mapIdx fun i name => ⟨"aggr-uuid-" ++ (i + 1).repr, name⟩

/-- One aggregate, no nodes, no peer groups; a new machine is ready at the first look. -/
def initial : MemoryController where
  nodes := []
  aggregates := namedAggregates ["aggr1"]
  peerGroups := 0
  machines := .empty
  orders := []
  interfaces := []
  accounts := .empty
  tally := default
  assigned := 0
  runningAfter := some 1
  nvmeAfter := none
  failingInterfaces := []

instance : Inhabited MemoryController := ⟨initial⟩

def withNodes (c : MemoryController) (nodes : List Node) : MemoryController :=
  { c with nodes }

def withAggregates (c : MemoryController) (names : List String) : MemoryController :=
  { c with aggregates := namedAggregates names }

def withPeerGroups (c : MemoryController) (count : Nat) : MemoryController :=
  { c with peerGroups := count }

/-- A machine that runs and serves NVMe already. -/
def withRunningSvm (c : MemoryController) (name uuid : String) : MemoryController :=
  let svm : Svm :=
    { name, uuid := some uuid, state := .running, nvmeEnabled := true, aggregates := [] }
  { c with machines := c.machines.insert name ⟨svm, 0⟩ }

/-- An account that exists already. -/
def withAccount (c : MemoryController) (ownerUuid username password : String) : MemoryController :=
  { c with accounts := c.accounts.insert ⟨ownerUuid, username⟩ ⟨"vsadmin", password⟩ }

/-- New machines run from this look on. -/
def readyAfter (c : MemoryController) (lookups : Nat) : MemoryController :=
  { c with runningAfter := some lookups }

/-- New machines serve NVMe from this look on. -/
def withNvmeAfter (c : MemoryController) (lookups : Nat) : MemoryController :=
  { c with nvmeAfter := some lookups }

/-- New machines never run. -/
def neverReady (c : MemoryController) : MemoryController := { c with runningAfter := none }

/-- Interfaces with this name cannot be created. -/
def failInterface (c : MemoryController) (name : String) : MemoryController :=
  { c with failingInterfaces := name :: c.failingInterfaces }

/-! ### Looking inside -/

/-- The machine with a name. -/
def svmByName (c : MemoryController) (name : String) : Option Svm :=
  (c.machines.find? name).map (·.svm)

/-- The current password of an account. -/
def passwordOf (c : MemoryController) (ownerUuid username : String) : Option String :=
  (c.accounts.find? ⟨ownerUuid, username⟩).map (·.password)

/-! ### Calls -/

/-- Whether a threshold is set and reached. -/
def reached (lookups : Nat) (threshold : Option Nat) : Bool := threshold.any (· ≤ lookups)

/-- A machine after one more look. -/
def advance (c : MemoryController) (machine : Machine) : Machine :=
  let lookups := machine.lookups + 1
  let running := reached lookups c.runningAfter
  let nvme := reached lookups (c.nvmeAfter.or c.runningAfter)
  { lookups
    svm := { machine.svm with
      state := if running then .running else machine.svm.state
      nvmeEnabled := machine.svm.nvmeEnabled || nvme } }

/-- A machine that has just been ordered. -/
def orderedMachine (order : Svm.Order) (number : Nat) : Machine where
  lookups := 0
  svm :=
    { name := order.name
      uuid := some ("svm-uuid-" ++ number.repr)
      state := .creating
      nvmeEnabled := false
      aggregates := order.aggregates }

/-- Whether a machine has an interface of that name. -/
def hasInterface (c : MemoryController) (interface : Interface) : Bool :=
  c.interfaces.any fun i => i.name == interface.name && i.svmUuid == interface.svmUuid

/-- The answer to a call that has been tallied, and the state after it. -/
def answer : (call : ControllerCall) → MemoryController →
    Except Failure call.Answer × MemoryController
  | .svmByName name, c => (.ok (c.svmByName name), c)
  | .svm uuid, c =>
    match c.machines.updateFirst? (fun m => m.svm.uuid == some uuid) c.advance with
    | none => (.error (.notFound "Svm" uuid), c)
    | some (machine, machines) => (.ok machine.svm, { c with machines })
  | .createSvm order, c =>
    if c.machines.contains order.name then (.error (.alreadyExists "Svm" order.name), c)
    else
      let number := c.assigned + 1
      (.ok (), { c with
        assigned := number
        machines := c.machines.insert order.name (orderedMachine order number)
        orders := c.orders ++ [order] })
  | .nodes, c => (.ok c.nodes, c)
  | .aggregates, c => (.ok c.aggregates, c)
  | .createInterface interface, c =>
    if c.failingInterfaces.contains interface.name then
      (.error (.controller "create interface" 500 ("injected failure for " ++ interface.name)), c)
    else if c.hasInterface interface then
      (.error (.alreadyExists "NetworkInterface" interface.name), c)
    else (.ok (), { c with interfaces := c.interfaces ++ [interface] })
  | .peerGroups, c => (.ok c.peerGroups, c)
  | .createAccount order, c =>
    let key : KeyPair := ⟨order.ownerUuid, order.credentials.username⟩
    if c.accounts.contains key then
      (.error (.alreadyExists "Account" order.credentials.username), c)
    else
      (.ok (), { c with
        accounts := c.accounts.insert key ⟨order.role, order.credentials.password⟩ })
  | .account ownerUuid username, c =>
    (.ok ((c.accounts.find? ⟨ownerUuid, username⟩).map fun login =>
      { ownerUuid, username, role := login.role, locked := false }), c)
  | .setPassword ownerUuid username password, c =>
    match c.accounts.find? ⟨ownerUuid, username⟩ with
    | none => (.error (.notFound "Account" username), c)
    | some login =>
      (.ok (), { c with
        accounts := c.accounts.insert ⟨ownerUuid, username⟩ { login with password } })

/-- The answer to a call, and the state after it. -/
def perform (call : ControllerCall) (c : MemoryController) :
    Except Failure call.Answer × MemoryController :=
  answer call { c with tally := c.tally.add call }

end MemoryController

end TenantStorage
