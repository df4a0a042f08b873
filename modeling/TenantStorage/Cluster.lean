import TenantStorage.Address

/-!
# Nodes, aggregates and network interfaces of a storage cluster

* `Node`, `Aggregate` — the machines of a cluster and its pools of capacity.
* `Addressing` — host routes announced through BGP, or addresses of the node's subnet.
* `Interface` — a network interface of a storage virtual machine, with everything resolved.
-/

namespace TenantStorage

/-- A machine of the cluster; network interfaces are placed on nodes. -/
structure Node where
  uuid : String
  name : String
deriving DecidableEq, Repr, Inhabited

/-- A pool of physical capacity. -/
structure Aggregate where
  uuid : String
  name : String
deriving DecidableEq, Repr, Inhabited

/-- The traffic that a network interface carries. -/
inductive Interface.Role where
  | data
  | management
deriving DecidableEq, Repr, Inhabited

/-- The word for a role. -/
def Interface.Role.text : Interface.Role → String
  | .data => "data"
  | .management => "management"

/-- The service policy of a role.  It is fixed, not configured. -/
def Interface.Role.servicePolicy : Interface.Role → String
  | .data => "default-data-nvme-tcp"
  | .management => "default-management"

/-- A network interface of a storage virtual machine. -/
structure Interface where
  name : String
  ip : Address
  /-- Length of the network part of the address. -/
  netmask : UInt8
  role : Interface.Role
  /-- Whether the address moves between nodes and is announced through BGP. -/
  vip : Bool
  servicePolicy : String
  svmUuid : String
  nodeUuid : String
deriving DecidableEq, Repr, Inhabited

/-- How the addresses of interfaces are advertised. -/
inductive Addressing where
  /-- Single floating addresses, announced through BGP. -/
  | hostRoute
  /-- Addresses fixed to the subnet of their node. -/
  | subnet
deriving DecidableEq, Repr, Inhabited

namespace Addressing

/-- A cluster with a BGP peer group takes host routes. -/
def ofPeerGroups (count : Nat) : Addressing := if count = 0 then .subnet else .hostRoute

/-- The prefix length of every interface. -/
def netmask : Addressing → UInt8
  | .hostRoute => 32
  | .subnet => 24

/-- Whether the addresses float. -/
def vip : Addressing → Bool
  | .hostRoute => true
  | .subnet => false

end Addressing

end TenantStorage
