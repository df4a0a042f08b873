import TenantStorage.Action
import TenantStorage.Settings.Engine

/-!
# Network interfaces of a machine

Interfaces are placed on the nodes of the cluster: the data interfaces in turn, the management
interface on the first node.

* `distinctNodes` — a listing without repetitions; `selectNodes` — two nodes at least.
* `EndpointRequest.plan` — every interface, with its name, address and node.
* `createInterface` — an interface that exists already is as good as a new one.
* `allocate` — asks for the addressing, plans, and creates the interfaces in order.
-/

namespace TenantStorage.Provision

open Engine

/-- The fewest nodes over which interfaces may be spread. -/
def minNodes : Nat := 2

/-! ### Nodes -/

/-- The first node with each identifier, in order; `seen` are the identifiers that came before. -/
def firstNodes (seen : List String) : List Node → List Node
  | [] => []
  | node :: rest =>
    if seen.contains node.uuid then firstNodes seen rest
    else node :: firstNodes (node.uuid :: seen) rest

/-- The first node with each identifier, in order. -/
def distinctNodes (nodes : List Node) : List Node := firstNodes [] nodes

/-- The nodes of the cluster, without which there is nothing to place interfaces on. -/
def selectNodes : Attempt (List Node) := do
  let nodes := distinctNodes (← controller .nodes)
  if nodes.length < minNodes then throw (.insufficientNodes nodes.length minNodes)
  return nodes

/-! ### The plan -/

/-- The addresses for one machine. -/
structure EndpointRequest where
  svmUuid : String
  /-- One data interface is created per address. -/
  dataIps : List Address
  managementIp : Address
deriving DecidableEq, Repr

/-- An interface of a machine on a node. -/
def endpoint (name : String) (ip : Address) (role : Interface.Role) (svmUuid : String) (node : Node)
    (mode : Addressing) : Interface where
  name := name
  ip := ip
  netmask := mode.netmask
  role := role
  vip := mode.vip
  servicePolicy := role.servicePolicy
  svmUuid := svmUuid
  nodeUuid := node.uuid

/-- The data interfaces for the addresses from `index` on, placed on the nodes in turn. -/
def dataEndpoints (engine : Settings.Engine) (svmUuid : String) (nodes : List Node) (mode : Addressing) :
    (index : Nat) → List Address → List Interface
  | _, [] => []
  | index, ip :: rest =>
    let node := nodes[index % nodes.length]?.getD default
    endpoint (engine.dataInterfaceName index) ip .data svmUuid node mode ::
      dataEndpoints engine svmUuid nodes mode (index + 1) rest

/-- All interfaces: the data interfaces in the order of their addresses, then the management interface. -/
def EndpointRequest.plan (request : EndpointRequest) (engine : Settings.Engine) (nodes : List Node)
    (mode : Addressing) : Except Failure (List Interface) :=
  match nodes with
  | [] => .error (.insufficientNodes 0 minNodes)
  | first :: _ => .ok
    (dataEndpoints engine request.svmUuid nodes mode 0 request.dataIps ++
      [endpoint engine.managementInterfaceTag request.managementIp .management request.svmUuid
        first mode])

/-! ### Creation -/

/-- Asks whether the cluster announces addresses through BGP. -/
def probeAddressing : Attempt Addressing := do
  return .ofPeerGroups (← controller .peerGroups)

/-- Creates an interface.  A name that the machine has already is left as it is; any other failure
    names the interface. -/
def createInterface (interface : Interface) : Attempt Unit := ExceptT.mk do
  match ← (controller (.createInterface interface)).run with
  | .ok () =>
    count (.interfaceCreated interface.role)
    return .ok ()
  | .error failure =>
    if failure.isAlreadyExists then return .ok ()
    else return .error (.interfaceCreation interface.name failure)

/-- Creates interfaces in order and stops at the first failure. -/
def createInterfaces : List Interface → Attempt Unit
  | [] => return ()
  | interface :: rest => do
    createInterface interface
    createInterfaces rest

/-- Plans and creates all interfaces of a machine.  What was created before a failure stays. -/
def allocate (engine : Settings.Engine) (request : EndpointRequest) (nodes : List Node) :
    Attempt (List Interface) := do
  let mode ← probeAddressing
  let interfaces ← request.plan engine nodes mode
  createInterfaces interfaces
  return interfaces

end TenantStorage.Provision
