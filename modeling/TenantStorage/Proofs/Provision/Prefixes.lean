import Mathlib.Data.List.Basic
import Mathlib.Data.Nat.Digits.Defs
import Mathlib.Data.Set.Basic
import TenantStorage.Proofs.Provision.Discipline

/-!
# Which addresses a prefix covers

An interface has an address and the length of its network part.  The length is the same for all addresses of a
plan, whatever their family.

* `Address.number` — an address as one number; `Address.eq_of_number_eq` — it determines the address.
* `Address.block` — the addresses that agree with an address in so many bits from the front.
* `Address.block_eq_singleton_iff` — only the full width leaves a single address.
* `prefixes_of_plan` — the prefixes of a plan fit their addresses, and those of host routes, which have 32 bits,
  cover single addresses in the case of IPv4 only.
-/

namespace TenantStorage

namespace Address

/-! ### Addresses as numbers -/

/-- How many values a unit of an address has. -/
def base : Address → Nat
  | v4 _ => 256
  | v6 _ => 65536

/-- The units of an address in the order in which they are written: octets or groups. -/
def units : Address → List Nat
  | v4 octets => [octets.a.toNat, octets.b.toNat, octets.c.toNat, octets.d.toNat]
  | v6 address => address.groups.map (·.toNat)

/-- An address as a number, the first unit being the most significant. -/
def number (address : Address) : Nat := Nat.ofDigits address.base address.units.reverse

theorem unit_lt {address : Address} : ∀ unit ∈ address.units, unit < address.base := by
  cases address with
  | v4 octets =>
    simp only [units, base, List.forall_mem_cons, List.not_mem_nil, false_imp_iff, implies_true, and_true]
    exact ⟨octets.a.toNat_lt, octets.b.toNat_lt, octets.c.toNat_lt, octets.d.toNat_lt⟩
  | v6 address =>
    intro unit hunit
    obtain ⟨group, -, rfl⟩ := List.mem_map.1 hunit
    exact group.toNat_lt

/-- The addresses of one family are different numbers. -/
theorem eq_of_number_eq {a b : Address} (hwidth : a.width = b.width) (h : a.number = b.number) : a = b := by
  have hunits : a.base = b.base → a.units.length = b.units.length → a.units = b.units := by
    intro hbase hlength
    refine List.reverse_injective (Nat.ofDigits_inj_of_len_eq (b := a.base) ?_ ?_ ?_ ?_ ?_)
    · cases a <;> simp [base]
    · rwa [List.length_reverse, List.length_reverse]
    · exact fun unit hunit => unit_lt unit (List.mem_reverse.1 hunit)
    · exact fun unit hunit => hbase ▸ unit_lt unit (List.mem_reverse.1 hunit)
    · rw [number, number, ← hbase] at h
      exact h
  match a, b, hwidth with
  | v4 ⟨_, _, _, _⟩, v4 ⟨_, _, _, _⟩, _ =>
    have hsame := hunits rfl rfl
    simp only [units, List.cons.injEq, UInt8.toNat_inj, and_true] at hsame
    obtain ⟨rfl, rfl, rfl, rfl⟩ := hsame
    rfl
  | v6 ⟨left, hleft⟩, v6 ⟨right, hright⟩, _ =>
    have hsame := hunits rfl (by simp only [units, List.length_map, hleft, hright])
    obtain rfl : left = right := List.map_injective_iff.2 (fun _ _ => UInt16.toNat_inj.1) hsame
    rfl

/-! ### Addresses with a common prefix -/

/-- The addresses of the same family that agree with an address in the first `length` bits. -/
def block (length : Nat) (address : Address) : Set Address :=
  {other | other.width = address.width ∧
    other.number >>> (address.width - length) = address.number >>> (address.width - length)}

theorem mem_block {length : Nat} {address other : Address} : other ∈ address.block length ↔
    other.width = address.width ∧
      other.number >>> (address.width - length) = address.number >>> (address.width - length) := Iff.rfl

/-- Some other address differs in the last bit only. -/
theorem exists_neighbour (address : Address) :
    ∃ other, other ≠ address ∧ other.width = address.width ∧ other.number / 2 = address.number / 2 := by
  have hflip : ∀ n m, n < 2 * m → ∃ k < 2 * m, k ≠ n ∧ k / 2 = n / 2 := fun n m hn =>
    ⟨n / 2 * 2 + (1 - n % 2), by omega, by omega, by omega⟩
  cases address with
  | v4 octets =>
    obtain ⟨k, hk, hother, hhalf⟩ := hflip octets.d.toNat 128 octets.d.toNat_lt
    have htoNat : (UInt8.ofNat k).toNat = k := UInt8.toNat_ofNat_of_lt hk
    refine ⟨v4 { octets with d := .ofNat k }, ?_, rfl, ?_⟩
    · intro heq
      have hlast : UInt8.ofNat k = octets.d := congrArg V4.d (v4.inj heq)
      exact hother (by rw [← hlast, htoNat])
    · simp only [number, units, base, List.reverse_cons, List.reverse_nil, List.nil_append, List.cons_append,
        Nat.ofDigits_cons, htoNat]
      omega
  | v6 address =>
    obtain ⟨groups, hlength⟩ := address
    obtain rfl | ⟨front, last, rfl⟩ := groups.eq_nil_or_concat'
    · cases hlength
    obtain ⟨k, hk, hother, hhalf⟩ := hflip last.toNat 32768 last.toNat_lt
    have htoNat : (UInt16.ofNat k).toNat = k := UInt16.toNat_ofNat_of_lt hk
    refine ⟨v6 ⟨front ++ [.ofNat k], by simpa using hlength⟩, ?_, rfl, ?_⟩
    · intro heq
      have hlast : UInt16.ofNat k = last := by simpa using heq
      exact hother (by rw [← hlast, htoNat])
    · simp only [number, units, base, List.map_append, List.map_cons, List.map_nil, List.reverse_append,
        List.reverse_cons, List.reverse_nil, List.nil_append, List.cons_append, Nat.ofDigits_cons, htoNat]
      omega

/-- A prefix covers a single address only if it has all its bits. -/
theorem block_eq_singleton_iff {length : Nat} {address : Address} :
    address.block length = {address} ↔ address.width ≤ length := by
  constructor
  · intro hsingle
    by_contra hshort
    obtain ⟨other, hother, hwidth, hhalf⟩ := exists_neighbour address
    obtain ⟨rest, hrest⟩ : ∃ rest, address.width - length = rest + 1 := ⟨address.width - length - 1, by omega⟩
    have hmem : other ∈ address.block length := by
      rw [mem_block, hrest, Nat.shiftRight_succ_inside, Nat.shiftRight_succ_inside, hhalf]
      exact ⟨hwidth, rfl⟩
    rw [hsingle] at hmem
    exact hother hmem
  · intro hfull
    ext other
    rw [mem_block, Nat.sub_eq_zero_of_le hfull, Nat.shiftRight_zero, Nat.shiftRight_zero, Set.mem_singleton_iff]
    constructor
    · exact fun h => eq_of_number_eq h.1 h.2
    · rintro rfl
      exact ⟨rfl, rfl⟩

end Address

namespace Provision

variable {engine : Settings.Engine} {request : EndpointRequest} {nodes : List Node} {mode : Addressing}
  {interfaces : List Interface}

/-! ### The prefixes of a plan -/

theorem addresses_dataEndpoints (engine : Settings.Engine) (uuid : String) (nodes : List Node) (mode : Addressing)
    (index : Nat) (ips : List Address) :
    (dataEndpoints engine uuid nodes mode index ips).map (·.ip) = ips ∧
      ∀ interface ∈ dataEndpoints engine uuid nodes mode index ips, interface.netmask = mode.netmask := by
  induction ips generalizing index with
  | nil => simp [dataEndpoints]
  | cons ip rest ih =>
    obtain ⟨hips, hnetmask⟩ := ih (index + 1)
    rw [dataEndpoints, List.map_cons, hips, List.forall_mem_cons]
    exact ⟨rfl, rfl, hnetmask⟩

/-- The addresses of a plan are the requested ones, and all have the prefix length of the addressing. -/
theorem addresses_plan (h : request.plan engine nodes mode = .ok interfaces) :
    interfaces.map (·.ip) = request.dataIps ++ [request.managementIp] ∧
      ∀ interface ∈ interfaces, interface.netmask = mode.netmask := by
  cases nodes with
  | nil => cases h
  | cons first rest =>
    obtain ⟨hips, hnetmask⟩ :=
      addresses_dataEndpoints engine request.svmUuid (first :: rest) mode 0 request.dataIps
    cases h
    rw [List.map_append, hips, List.forall_mem_append]
    exact ⟨rfl, hnetmask, List.forall_mem_singleton.2 rfl⟩

theorem netmask_le_width (mode : Addressing) (address : Address) : mode.netmask.toNat ≤ address.width := by
  cases mode <;> cases address <;> simp [Addressing.netmask, Address.width]

theorem width_le_iff {address : Address} : address.width ≤ 32 ↔ ∃ octets, address = .v4 octets := by
  cases address with
  | v4 octets => exact ⟨fun _ => ⟨octets, rfl⟩, fun _ => le_rfl⟩
  | v6 groups => exact ⟨fun h => absurd h (by simp [Address.width]), fun ⟨_, h⟩ => nomatch h⟩

/-- **Prefixes.**  A plan has an interface for every requested address, with a prefix length within the width of the
    address.  With a peer group it is 32, and it covers the address alone if that is an IPv4 address. -/
theorem prefixes_of_plan (engine : Settings.Engine) (request : EndpointRequest) (peerGroups : Nat)
    {nodes : List Node} (h : nodes ≠ []) :
    ∃ interfaces, request.plan engine nodes (.ofPeerGroups peerGroups) = .ok interfaces ∧
      interfaces.map (·.ip) = request.dataIps ++ [request.managementIp] ∧
      ∀ interface ∈ interfaces, interface.netmask.toNat ≤ interface.ip.width ∧
        (0 < peerGroups → interface.netmask = 32 ∧
          (interface.ip.block interface.netmask.toNat = {interface.ip} ↔ ∃ octets, interface.ip = .v4 octets)) := by
  obtain ⟨interfaces, hplan⟩ : ∃ interfaces, request.plan engine nodes (.ofPeerGroups peerGroups) = .ok interfaces :=
    plan_of_nodes h request _
  obtain ⟨hips, hnetmask⟩ := addresses_plan hplan
  refine ⟨interfaces, hplan, hips, fun interface hinterface => ?_⟩
  rw [hnetmask interface hinterface]
  refine ⟨netmask_le_width _ _, fun hgroups => ?_⟩
  have hmode : Addressing.ofPeerGroups peerGroups = .hostRoute := if_neg hgroups.ne'
  rw [hmode, Address.block_eq_singleton_iff]
  exact ⟨rfl, width_le_iff⟩

/-- A plan for IPv4 addresses on a cluster with a peer group consists of host routes to single addresses. -/
theorem single_addresses_of_ipv4 :
    ∃ interfaces, (EndpointRequest.mk "svm-uuid-1" [.v4 ⟨10, 0, 0, 1⟩, .v4 ⟨10, 0, 0, 2⟩]
        (.v4 ⟨10, 0, 0, 9⟩)).plan default [⟨"node-1", "n1"⟩, ⟨"node-2", "n2"⟩] (.ofPeerGroups 1) = .ok interfaces ∧
      ∀ interface ∈ interfaces, interface.ip.block interface.netmask.toNat = {interface.ip} := by
  have hnodes : [Node.mk "node-1" "n1", ⟨"node-2", "n2"⟩] ≠ [] := List.cons_ne_nil _ _
  obtain ⟨interfaces, hplan, hips, hprefixes⟩ := prefixes_of_plan default
    ⟨"svm-uuid-1", [.v4 ⟨10, 0, 0, 1⟩, .v4 ⟨10, 0, 0, 2⟩], .v4 ⟨10, 0, 0, 9⟩⟩ 1 hnodes
  refine ⟨interfaces, hplan, fun interface hinterface => ?_⟩
  refine (((hprefixes interface hinterface).2 Nat.one_pos).2).2 ?_
  have hip : interface.ip ∈ interfaces.map (·.ip) := List.mem_map_of_mem hinterface
  rw [hips] at hip
  simp only [List.cons_append, List.nil_append, List.mem_cons, List.not_mem_nil, or_false] at hip
  rcases hip with heq | heq | heq <;> exact ⟨_, heq⟩

/-- With a peer group, addresses of both families get the same prefix, and that of a single IPv6 address covers its
    neighbours. -/
theorem prefixes_of_mixed_plan :
    ∃ interfaces, (EndpointRequest.mk "svm-uuid-1" [.v4 ⟨10, 0, 0, 1⟩, .v6 ⟨[0xfd00, 0, 0, 0, 0, 0, 0, 1], rfl⟩]
        (.v4 ⟨10, 0, 0, 9⟩)).plan default [⟨"node-1", "n1"⟩, ⟨"node-2", "n2"⟩] (.ofPeerGroups 1) = .ok interfaces ∧
      ∃ interface ∈ interfaces, ∃ other ∈ interface.ip.block interface.netmask.toNat, other ≠ interface.ip := by
  refine ⟨_, rfl, _, List.mem_cons_of_mem _ List.mem_cons_self, .v6 ⟨[0xfd00, 0, 0, 0, 0, 0, 0, 2], rfl⟩, ?_, ?_⟩
  · rw [Address.mem_block]
    decide
  · decide

end Provision

end TenantStorage
