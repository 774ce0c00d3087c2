import Omicron.Planning.ExternalIpAllocator
import Omicron.Lib.ExceptRun

/-!
# Reconfigurator: external networking for new service zones

`ExternalNetworkingAllocator` (`blueprint_editor::allocators::external_networking`) chooses the
external IP, the NIC address and the MAC of each new Nexus, boundary NTP or external DNS zone.
`new` scans the zones in service: it collects their NIC addresses by kind and family, their MACs
and their external DNS IPs, marks their external IPs used in the `ExternalIpAllocator`, and
refuses a repeat of any of them. The NIC addresses of a kind come from that kind's OPTE subnet,
past its reserved addresses and past those of the zones of the same kind in service
(`AvailableIterator`); the MACs from the system range, past those in service; external DNS IPs
are the policy's, less those in service.

* `forNewNexus`, `forNewBoundaryNtp`, `forNewExternalDns` -- one definition `forNewZone` applied to
  each kind's claim of its external IP;
* `LedgerInv` -- the external IPs handed out or in use: the exclusive IPs and the SNAT
  configurations, each list without repeats, and each IP in use in the state;
  `LedgerInv.call` proves every call keeps it, `ledgerInv_new` that `new` starts it;
* `new_run_spec` -- **no IP is handed out twice exclusively or both ways, and no SNAT
  configuration twice; Nexus and boundary NTP IPs are non-DNS IPs of the pools, external DNS IPs
  the policy's DNS IPs**, over every sequence of calls after `new`;
* `new_run_service_ip_error` -- running out of service IPs means the pools are used up;
* `opteV4Ips_new` -- the NIC iterator of a kind passes over the addresses of the zones of that
  kind only;
* `forNewBoundaryNtp_repeats_nic_ip` -- the NIC iterators pass over only the NIC addresses of zones
  of their own kind, so a boundary NTP zone can be given the NIC address of a Nexus zone in
  service;
* `new_run_macs_nodup` -- the MACs, by contrast, are never handed out twice nor equal to one in
  service: the MAC iterator keeps every MAC handed out or in use out of what it has still to
  yield (`AvailableIterator.Fresh`).

`oxnet`'s subnets are modelled by their address and width: `addr_iter` yields the addresses of
the subnet upward from the one whose host bits are zero. The ids of the external IPs, the port of
the DNS address, the transit IPs of a NIC and the texts of `new`'s errors are left out.
-/

namespace Omicron.Oxql.IpAddr

/-- `IpAddr::is_loopback`: `127.0.0.0/8`, or `::1`. -/
def isLoopback : IpAddr → Bool
  | .v4 a => a.val / 2 ^ 24 == 127
  | .v6 a => a.val == 1

end Omicron.Oxql.IpAddr

namespace Omicron.Planning

open Oxql (IpAddr)

/-! ## 1. Subnets, NIC addresses and MACs -/

namespace PrefixNet

variable {bits : Nat}

/-- The host bits of the subnet. -/
def hostBits (net : PrefixNet bits) : Nat := bits - net.width

/-- `contains`: the address agrees with `addr` above the host bits. -/
def contains (net : PrefixNet bits) (ip : Fin (2 ^ bits)) : Bool :=
  ip.val / 2 ^ net.hostBits == net.addr.val / 2 ^ net.hostBits

/-- `addr_iter` (`iter` of an `Ipv6Net`): the addresses of the subnet upward, from the one whose
    host bits are zero. -/
def addrIter (net : PrefixNet bits) : List (Fin (2 ^ bits)) :=
  (List.range' (net.addr.val / 2 ^ net.hostBits * 2 ^ net.hostBits) (2 ^ net.hostBits)).map
    (Fin.ofNat _)

end PrefixNet

/-- `NUM_INITIAL_RESERVED_IP_ADDRESSES`. -/
def numInitialReservedIpAddresses : Nat := 5

/-- `DNS_OPTE_IPV4_SUBNET`: `172.30.1.0/24`. -/
def dnsOpteIpv4Subnet : Ipv4Net := ⟨⟨0xAC1E0100, by decide⟩, 24⟩

/-- `NEXUS_OPTE_IPV4_SUBNET`: `172.30.2.0/24`. -/
def nexusOpteIpv4Subnet : Ipv4Net := ⟨⟨0xAC1E0200, by decide⟩, 24⟩

/-- `NTP_OPTE_IPV4_SUBNET`: `172.30.3.0/24`. -/
def ntpOpteIpv4Subnet : Ipv4Net := ⟨⟨0xAC1E0300, by decide⟩, 24⟩

/-- `VPC_SUBNET_IPV6_PREFIX_LENGTH`. -/
def vpcSubnetIpv6PrefixLength : Nat := 64

/-- `DNS_OPTE_IPV6_SUBNET`: `fd77:e9d2:9cd9:1::/64`. -/
def dnsOpteIpv6Subnet : Ipv6Net :=
  ⟨⟨0xfd77e9d29cd90001 * 2 ^ 64, by decide⟩, vpcSubnetIpv6PrefixLength⟩

/-- `NEXUS_OPTE_IPV6_SUBNET`: `fd77:e9d2:9cd9:2::/64`. -/
def nexusOpteIpv6Subnet : Ipv6Net :=
  ⟨⟨0xfd77e9d29cd90002 * 2 ^ 64, by decide⟩, vpcSubnetIpv6PrefixLength⟩

/-- `NTP_OPTE_IPV6_SUBNET`: `fd77:e9d2:9cd9:3::/64`. -/
def ntpOpteIpv6Subnet : Ipv6Net :=
  ⟨⟨0xfd77e9d29cd90003 * 2 ^ 64, by decide⟩, vpcSubnetIpv6PrefixLength⟩

/-- The version-4 OPTE subnet of each kind. -/
def opteIpv4Subnet : ZoneKind → Ipv4Net
  | .boundaryNtp => ntpOpteIpv4Subnet
  | .nexus => nexusOpteIpv4Subnet
  | .externalDns => dnsOpteIpv4Subnet

/-- The version-6 OPTE subnet of each kind. -/
def opteIpv6Subnet : ZoneKind → Ipv6Net
  | .boundaryNtp => ntpOpteIpv6Subnet
  | .nexus => nexusOpteIpv6Subnet
  | .externalDns => dnsOpteIpv6Subnet

/-- `MIN_VPC_IPV4_SUBNET_PREFIX`. -/
def minVpcIpv4SubnetPrefix : Nat := 8

/-- `MAX_VPC_IPV4_SUBNET_PREFIX`. -/
def maxVpcIpv4SubnetPrefix : Nat := 26

/-- `PrivateIpv4Config`, without transit IPs (none here has any). -/
structure PrivateIpv4Config where
  ip : Fin (2 ^ 32)
  subnet : Ipv4Net
  deriving DecidableEq, Repr

/-- `PrivateIpv6Config`, without transit IPs. -/
structure PrivateIpv6Config where
  ip : Fin (2 ^ 128)
  subnet : Ipv6Net
  deriving DecidableEq, Repr

/-- `PrivateIpConfig`. -/
inductive PrivateIpConfig where
  | v4 (v4 : PrivateIpv4Config)
  | v6 (v6 : PrivateIpv6Config)
  | dualStack (v4 : PrivateIpv4Config) (v6 : PrivateIpv6Config)
  deriving DecidableEq, Repr

/-- `PrivateIpv4Config::new`. -/
def PrivateIpv4Config.new (ip : Fin (2 ^ 32)) (subnet : Ipv4Net) :
    Except PrivateIpConfigError PrivateIpv4Config :=
  if subnet.width < minVpcIpv4SubnetPrefix ∨ subnet.width > maxVpcIpv4SubnetPrefix then
    .error (.invalidIpv4NetworkPrefix subnet.width)
  else if subnet.contains ip then .ok ⟨ip, subnet⟩
  else .error (.ipNotInSubnet (.v4 subnet) (.v4 ip))

/-- `PrivateIpv6Config::new`. -/
def PrivateIpv6Config.new (ip : Fin (2 ^ 128)) (subnet : Ipv6Net) :
    Except PrivateIpConfigError PrivateIpv6Config :=
  if subnet.width ≠ vpcSubnetIpv6PrefixLength then .error (.invalidIpv6NetworkPrefix subnet.width)
  else if subnet.contains ip then .ok ⟨ip, subnet⟩
  else .error (.ipNotInSubnet (.v6 subnet) (.v6 ip))

namespace PrivateIpConfig

/-- `PrivateIpConfig::new_ipv4`. -/
def newIpv4 (ip : Fin (2 ^ 32)) (subnet : Ipv4Net) : Except PrivateIpConfigError PrivateIpConfig :=
  (PrivateIpv4Config.new ip subnet).map .v4

/-- `PrivateIpConfig::new_ipv6`. -/
def newIpv6 (ip : Fin (2 ^ 128)) (subnet : Ipv6Net) : Except PrivateIpConfigError PrivateIpConfig :=
  (PrivateIpv6Config.new ip subnet).map .v6

/-- `ipv4_addr`. -/
def ipv4Addr : PrivateIpConfig → Option (Fin (2 ^ 32))
  | .v4 c => some c.ip
  | .v6 _ => none
  | .dualStack c _ => some c.ip

/-- `ipv6_addr`. -/
def ipv6Addr : PrivateIpConfig → Option (Fin (2 ^ 128))
  | .v4 _ => none
  | .v6 c => some c.ip
  | .dualStack _ c => some c.ip

end PrivateIpConfig

/-- `MacAddr`, as its `i64` value. -/
structure MacAddr where
  value : Nat
  deriving DecidableEq, Repr

namespace MacAddr

/-- `MAX_SYSTEM_RESV`. -/
def maxSystemResv : Nat := 0xA84025FF7FFF

/-- `MAX_SYSTEM_ADDR`. -/
def maxSystemAddr : Nat := 0xA84025FFFFFF

/-- `iter_system`: the system addresses past the reserved ones. -/
def iterSystem : List MacAddr :=
  (List.range' (maxSystemResv + 1) (maxSystemAddr - maxSystemResv)).map MacAddr.mk

end MacAddr

/-- `AvailableIterator`: what the base iterator has still to yield, and the items in use. -/
structure AvailableIterator (α : Type) where
  base : List α
  inUse : Finset α

/-- `AvailableIterator::next`: `find` of an item not in use, which consumes the base up to it. -/
def AvailableIterator.next {α : Type} [DecidableEq α] (it : AvailableIterator α) :
    Option α × AvailableIterator α :=
  let (found, rest) := it.base.findConsume fun item => item ∉ it.inUse
  (found, { it with base := rest })

/-! ## 2. The zones in service, and `new` -/

/-- `NetworkInterface`: what the allocator reads of it. -/
structure NetworkInterface where
  ipConfig : PrivateIpConfig
  mac : MacAddr
  deriving DecidableEq, Repr

/-- `BlueprintZoneType`: the kinds with external networking, with the fields read here; the
    other kinds are `other`. -/
inductive BlueprintZoneType where
  | boundaryNtp (externalIp : SourceNatConfig) (nic : NetworkInterface)
  | nexus (externalIp : IpAddr) (nic : NetworkInterface)
  | externalDns (dnsAddress : IpAddr) (nic : NetworkInterface)
  | other
  deriving DecidableEq

/-- `external_networking`. -/
def BlueprintZoneType.externalNetworking :
    BlueprintZoneType → Option (OmicronZoneExternalIp × NetworkInterface)
  | .nexus externalIp nic => some (.floating externalIp, nic)
  | .externalDns dnsAddress nic => some (.floating dnsAddress, nic)
  | .boundaryNtp externalIp nic => some (.snat externalIp, nic)
  | .other => none

/-- The sets `new` fills while it scans the zones: the NIC addresses of each kind and family,
    the allocator of external IPs, the MACs and the external DNS IPs. -/
structure UsedResources where
  existingV4Ips : ZoneKind → Finset (Fin (2 ^ 32))
  existingV6Ips : ZoneKind → Finset (Fin (2 ^ 128))
  externalIpAlloc : ExternalIpAllocator
  usedMacs : Finset MacAddr
  usedExternalDnsIps : Finset IpAddr

/-- The errors `new` bails with. -/
inductive NewError where
  | duplicateNicIp (kind : ZoneKind) (ip : IpAddr)
  | duplicateExternalDnsExternalIp (ip : IpAddr)
  | externalIp (e : ExternalIpAllocatorError)
  | duplicateServiceVnicMac (mac : MacAddr)
  | unexpectedExternalDnsIps (ips : List IpAddr)

namespace UsedResources

/-- The sets before the scan. -/
def empty (policy : ExternalIpPolicy) : UsedResources :=
  ⟨fun _ => ∅, fun _ => ∅, ExternalIpAllocator.new policy, ∅, ∅⟩

/-- The NIC addresses of a zone of kind `kind`, each into the set of its kind and family,
    refusing one already there: the two checks of each kind's arm. -/
def insertNicIps (u : UsedResources) (kind : ZoneKind) (nic : NetworkInterface) :
    Except NewError UsedResources := do
  let u ← (match nic.ipConfig.ipv4Addr with
    | some ip =>
      if ip ∈ u.existingV4Ips kind then throw (.duplicateNicIp kind (.v4 ip))
      else pure { u with
        existingV4Ips := Function.update u.existingV4Ips kind (insert ip (u.existingV4Ips kind)) }
    | none => pure u)
  match nic.ipConfig.ipv6Addr with
  | some ip =>
    if ip ∈ u.existingV6Ips kind then throw (.duplicateNicIp kind (.v6 ip))
    else pure { u with
      existingV6Ips := Function.update u.existingV6Ips kind (insert ip (u.existingV6Ips kind)) }
  | none => pure u

/-- The uses of the external IP and the MAC, for a zone with external networking. A loopback
    IP is left unmarked. -/
def markExternalNetworking (u : UsedResources) (externalIp : OmicronZoneExternalIp)
    (nic : NetworkInterface) : Except NewError UsedResources := do
  let u ← (if externalIp.ip.isLoopback then pure u
    else match u.externalIpAlloc.markIpUsed externalIp with
      | .ok alloc => pure { u with externalIpAlloc := alloc }
      | .error e => throw (.externalIp e))
  if nic.mac ∈ u.usedMacs then throw (.duplicateServiceVnicMac nic.mac)
  else pure { u with usedMacs := insert nic.mac u.usedMacs }

/-- One round of the loop of `new` over the zones in service. -/
def scanZone (u : UsedResources) (z : BlueprintZoneType) : Except NewError UsedResources := do
  let u ← (match z with
    | .boundaryNtp _ nic => u.insertNicIps .boundaryNtp nic
    | .nexus _ nic => u.insertNicIps .nexus nic
    | .externalDns dnsAddress nic =>
      if dnsAddress ∈ u.usedExternalDnsIps then throw (.duplicateExternalDnsExternalIp dnsAddress)
      else { u with usedExternalDnsIps := insert dnsAddress u.usedExternalDnsIps }.insertNicIps
        .externalDns nic
    | .other => pure u)
  match z.externalNetworking with
  | some (externalIp, nic) => u.markExternalNetworking externalIp nic
  | none => pure u

end UsedResources

/-- `ExternalNetworkingAllocator`. The six NIC iterators, one for each kind and family, are
    `opteV4Ips` and `opteV6Ips` of the kind. -/
structure ExternalNetworkingAllocator where
  opteV4Ips : ZoneKind → AvailableIterator (Fin (2 ^ 32))
  opteV6Ips : ZoneKind → AvailableIterator (Fin (2 ^ 128))
  availableExternalDnsIps : Finset IpAddr
  externalIpAlloc : ExternalIpAllocator
  availableSystemMacs : AvailableIterator MacAddr

namespace ExternalNetworkingAllocator

/-- The allocator `new` builds from the sets of its scan. -/
def ofUsed (u : UsedResources) (externalIpPolicy : ExternalIpPolicy) :
    ExternalNetworkingAllocator where
  opteV4Ips kind :=
    ⟨(opteIpv4Subnet kind).addrIter.drop numInitialReservedIpAddresses, u.existingV4Ips kind⟩
  opteV6Ips kind :=
    ⟨(opteIpv6Subnet kind).addrIter.drop numInitialReservedIpAddresses, u.existingV6Ips kind⟩
  availableExternalDnsIps := externalIpPolicy.externalDnsIps \ u.usedExternalDnsIps
  externalIpAlloc := u.externalIpAlloc
  availableSystemMacs := ⟨MacAddr.iterSystem, u.usedMacs⟩

/-- `ExternalNetworkingAllocator::new`: the scan, then the check that every external DNS IP in
    service (but loopback) is one of the policy's. -/
def new (runningOmicronZones : List BlueprintZoneType) (externalIpPolicy : ExternalIpPolicy) :
    Except NewError ExternalNetworkingAllocator := do
  let u ← runningOmicronZones.foldlM UsedResources.scanZone (UsedResources.empty externalIpPolicy)
  let unexpectedExternalDnsIps :=
    (u.usedExternalDnsIps \ externalIpPolicy.externalDnsIps).ascending.filter (!·.isLoopback)
  if unexpectedExternalDnsIps ≠ [] then throw (.unexpectedExternalDnsIps unexpectedExternalDnsIps)
  else pure (ofUsed u externalIpPolicy)

/-! ## 3. New zones -/

/-- `ExternalNetworkingChoice` (`ρ = IpAddr`) and `ExternalSnatNetworkingChoice`
    (`ρ = SourceNatConfig`). -/
structure NetworkingChoice (ρ : Type) where
  external : ρ
  nicIpConfig : PrivateIpConfig
  nicMac : MacAddr

/-- The NIC address of a new zone of kind `kind`, from the iterator of that kind and of the
    family of its external IP: the `match` on the external IP of each `for_new_*`. -/
def nextNicIpConfig (s : ExternalNetworkingAllocator) (kind : ZoneKind) (externalIp : IpAddr) :
    Except ExternalNetworkingError PrivateIpConfig × ExternalNetworkingAllocator :=
  match externalIp with
  | .v4 _ =>
    let (ip, it) := (s.opteV4Ips kind).next
    let s := { s with opteV4Ips := Function.update s.opteV4Ips kind it }
    match ip with
    | some ip =>
      ((PrivateIpConfig.newIpv4 ip (opteIpv4Subnet kind)).mapError .invalidPrivateIpConfig, s)
    | none => (.error (.exhaustedOpteIps kind), s)
  | .v6 _ =>
    let (ip, it) := (s.opteV6Ips kind).next
    let s := { s with opteV6Ips := Function.update s.opteV6Ips kind it }
    match ip with
    | some ip =>
      ((PrivateIpConfig.newIpv6 ip (opteIpv6Subnet kind)).mapError .invalidPrivateIpConfig, s)
    | none => (.error (.exhaustedOpteIps kind), s)

/-- What each `for_new_*` does once its kind's `claim` of the external IP (`ipOf` its address)
    returned: the NIC address, then a MAC. Each step that fails returns with what it consumed
    gone. -/
def forNewZone {ρ : Type} (kind : ZoneKind)
    (claim : ExternalNetworkingAllocator →
      Except ExternalNetworkingError ρ × ExternalNetworkingAllocator)
    (ipOf : ρ → IpAddr) (s : ExternalNetworkingAllocator) :
    Except ExternalNetworkingError (NetworkingChoice ρ) × ExternalNetworkingAllocator :=
  match claim s with
  | (.error e, s) => (.error e, s)
  | (.ok external, s) =>
    match s.nextNicIpConfig kind (ipOf external) with
    | (.error e, s) => (.error e, s)
    | (.ok nicIpConfig, s) =>
      match s.availableSystemMacs.next with
      | (some nicMac, macs) => (.ok ⟨external, nicIpConfig, nicMac⟩, { s with availableSystemMacs := macs })
      | (none, macs) => (.error .noSystemMacAddressAvailable, { s with availableSystemMacs := macs })

/-- The claim of `for_new_nexus`: `claim_next_exclusive_ip`. -/
def claimExclusiveIp (s : ExternalNetworkingAllocator) :
    Except ExternalNetworkingError IpAddr × ExternalNetworkingAllocator :=
  let (r, alloc) := s.externalIpAlloc.claimNextExclusiveIp
  (r, { s with externalIpAlloc := alloc })

/-- The claim of `for_new_boundary_ntp`: `claim_next_snat_ip`. -/
def claimSnatIp (s : ExternalNetworkingAllocator) :
    Except ExternalNetworkingError SourceNatConfig × ExternalNetworkingAllocator :=
  let (r, alloc) := s.externalIpAlloc.claimNextSnatIp
  (r, { s with externalIpAlloc := alloc })

/-- The claim of `for_new_external_dns`: `pop_first` of the available external DNS IPs. -/
def popFirstExternalDnsIp (s : ExternalNetworkingAllocator) :
    Except ExternalNetworkingError IpAddr × ExternalNetworkingAllocator :=
  match s.availableExternalDnsIps.ascending with
  | ip :: _ => (.ok ip, { s with availableExternalDnsIps := s.availableExternalDnsIps.erase ip })
  | [] => (.error .noExternalDnsIpAvailable, s)

/-- `for_new_nexus`. -/
def forNewNexus (s : ExternalNetworkingAllocator) :
    Except ExternalNetworkingError (NetworkingChoice IpAddr) × ExternalNetworkingAllocator :=
  forNewZone .nexus claimExclusiveIp id s

/-- `for_new_boundary_ntp`. -/
def forNewBoundaryNtp (s : ExternalNetworkingAllocator) :
    Except ExternalNetworkingError (NetworkingChoice SourceNatConfig) ×
      ExternalNetworkingAllocator :=
  forNewZone .boundaryNtp claimSnatIp SourceNatConfig.ip s

/-- `for_new_external_dns`. -/
def forNewExternalDns (s : ExternalNetworkingAllocator) :
    Except ExternalNetworkingError (NetworkingChoice IpAddr) × ExternalNetworkingAllocator :=
  forNewZone .externalDns popFirstExternalDnsIp id s

end ExternalNetworkingAllocator

/-! ## 4. What a call leaves of the external IPs -/

namespace ExternalNetworkingAllocator

variable {s s' : ExternalNetworkingAllocator}

/-- The NIC address is all `nextNicIpConfig` takes: the external IPs and the MACs stay. -/
theorem nextNicIpConfig_frame (kind : ZoneKind) (ip : IpAddr) :
    (s.nextNicIpConfig kind ip).2.externalIpAlloc = s.externalIpAlloc ∧
      (s.nextNicIpConfig kind ip).2.availableExternalDnsIps = s.availableExternalDnsIps ∧
      (s.nextNicIpConfig kind ip).2.availableSystemMacs = s.availableSystemMacs := by
  unfold nextNicIpConfig
  cases ip <;> dsimp only <;> split <;> exact ⟨rfl, rfl, rfl⟩

theorem mapError_invalidPrivateIpConfig {α : Type} {x : Except PrivateIpConfigError α}
    {e : ExternalNetworkingError} (h : x.mapError .invalidPrivateIpConfig = .error e) :
    ∃ pe, e = .invalidPrivateIpConfig pe := by
  cases x with
  | error pe => exact ⟨pe, (Except.error.inj h).symm⟩
  | ok a => cases h

/-- `nextNicIpConfig` fails with an exhausted subnet or a refused configuration. -/
theorem nextNicIpConfig_error {kind : ZoneKind} {ip : IpAddr} {e : ExternalNetworkingError}
    (h : (s.nextNicIpConfig kind ip).1 = .error e) :
    e = .exhaustedOpteIps kind ∨ ∃ pe, e = .invalidPrivateIpConfig pe := by
  unfold nextNicIpConfig at h
  cases ip <;> dsimp only at h <;> split at h
  · exact .inr (mapError_invalidPrivateIpConfig h)
  · exact .inl (Except.error.inj h).symm
  · exact .inr (mapError_invalidPrivateIpConfig h)
  · exact .inl (Except.error.inj h).symm

/-- **Everything a `for_new_*` can do** once its claim has returned: the external IPs are those
    the claim left, and the call hands out the claimed address, or fails with the claim's error
    or with one of the NIC address or the MAC. -/
theorem forNewZone_cases {ρ : Type} {kind : ZoneKind}
    {claim : ExternalNetworkingAllocator →
      Except ExternalNetworkingError ρ × ExternalNetworkingAllocator}
    {ipOf : ρ → IpAddr} {r : Except ExternalNetworkingError (NetworkingChoice ρ)}
    (h : forNewZone kind claim ipOf s = (r, s')) :
    s'.externalIpAlloc = (claim s).2.externalIpAlloc ∧
      s'.availableExternalDnsIps = (claim s).2.availableExternalDnsIps ∧
      ((∃ c, r = .ok c ∧ (claim s).1 = .ok c.external) ∨
        (∃ e, r = .error e ∧ ((claim s).1 = .error e ∨ e = .noSystemMacAddressAvailable ∨
          e = .exhaustedOpteIps kind ∨ ∃ pe, e = .invalidPrivateIpConfig pe))) := by
  unfold forNewZone at h
  split at h
  · rename_i e s₁ hclaim
    cases h
    rw [hclaim]
    exact ⟨rfl, rfl, .inr ⟨e, rfl, .inl rfl⟩⟩
  · rename_i external s₁ hclaim
    rw [hclaim]
    obtain ⟨hnic, hdns, -⟩ := nextNicIpConfig_frame (s := s₁) kind (ipOf external)
    split at h
    · -- the NIC address failed
      rename_i e s₂ hnext
      cases h
      rw [hnext] at hnic hdns
      have herr : (s₁.nextNicIpConfig kind (ipOf external)).1 = .error e := by rw [hnext]
      exact ⟨hnic, hdns, .inr ⟨e, rfl, .inr (.inr (nextNicIpConfig_error herr))⟩⟩
    · rename_i nicIpConfig s₂ hnext
      rw [hnext] at hnic hdns
      split at h
      · cases h
        exact ⟨hnic, hdns, .inl ⟨_, rfl, rfl⟩⟩
      · cases h
        exact ⟨hnic, hdns, .inr ⟨_, rfl, .inr (.inl rfl)⟩⟩

theorem claimExclusiveIp_eq (s : ExternalNetworkingAllocator) :
    (claimExclusiveIp s).1 = s.externalIpAlloc.claimNextExclusiveIp.1 ∧
      (claimExclusiveIp s).2.externalIpAlloc = s.externalIpAlloc.claimNextExclusiveIp.2 ∧
      (claimExclusiveIp s).2.availableExternalDnsIps = s.availableExternalDnsIps :=
  ⟨rfl, rfl, rfl⟩

theorem claimSnatIp_eq (s : ExternalNetworkingAllocator) :
    (claimSnatIp s).1 = s.externalIpAlloc.claimNextSnatIp.1 ∧
      (claimSnatIp s).2.externalIpAlloc = s.externalIpAlloc.claimNextSnatIp.2 ∧
      (claimSnatIp s).2.availableExternalDnsIps = s.availableExternalDnsIps :=
  ⟨rfl, rfl, rfl⟩

/-- `pop_first` hands out the least available DNS IP and takes it away, or fails on none. -/
theorem popFirstExternalDnsIp_cases (s : ExternalNetworkingAllocator) :
    (popFirstExternalDnsIp s).2.externalIpAlloc = s.externalIpAlloc ∧
      ((∃ ip, (popFirstExternalDnsIp s).1 = .ok ip ∧ ip ∈ s.availableExternalDnsIps ∧
          (popFirstExternalDnsIp s).2.availableExternalDnsIps = s.availableExternalDnsIps.erase ip) ∨
        ((popFirstExternalDnsIp s).1 = .error .noExternalDnsIpAvailable ∧
          (popFirstExternalDnsIp s).2.availableExternalDnsIps = s.availableExternalDnsIps)) := by
  unfold popFirstExternalDnsIp
  split
  · rename_i ip rest hasc
    have hmem : ip ∈ s.availableExternalDnsIps := by
      rw [← Finset.mem_ascending, hasc]
      exact List.mem_cons_self
    exact ⟨rfl, .inl ⟨ip, rfl, hmem, rfl⟩⟩
  · exact ⟨rfl, .inr ⟨rfl, rfl⟩⟩

/-! ## 5. Runs, and the external IPs they hand out -/

/-- The three calls of the planner. -/
inductive Call where
  | nexus
  | boundaryNtp
  | externalDns
  deriving DecidableEq, Repr

/-- What a call that succeeds hands out. -/
inductive Handed where
  | nexus (c : NetworkingChoice IpAddr)
  | boundaryNtp (c : NetworkingChoice SourceNatConfig)
  | externalDns (c : NetworkingChoice IpAddr)

/-- One call. -/
def call (s : ExternalNetworkingAllocator) :
    Call → Except ExternalNetworkingError Handed × ExternalNetworkingAllocator
  | .nexus => let (r, s) := s.forNewNexus; (r.map .nexus, s)
  | .boundaryNtp => let (r, s) := s.forNewBoundaryNtp; (r.map .boundaryNtp, s)
  | .externalDns => let (r, s) := s.forNewExternalDns; (r.map .externalDns, s)

/-- A sequence of calls, with the result of each. -/
def run (s : ExternalNetworkingAllocator) :
    List Call → List (Except ExternalNetworkingError Handed) × ExternalNetworkingAllocator
  | [] => ([], s)
  | c :: calls =>
    let (r, s₁) := s.call c
    let (rs, s₂) := s₁.run calls
    (r :: rs, s₂)

/-- The exclusive IP a result hands out: a Nexus or external DNS zone's. -/
def exclusiveIpsOf : Except ExternalNetworkingError Handed → List IpAddr
  | .ok (.nexus c) => [c.external]
  | .ok (.externalDns c) => [c.external]
  | _ => []

/-- The SNAT configuration a result hands out: a boundary NTP zone's. -/
def snatConfigsOf : Except ExternalNetworkingError Handed → List SourceNatConfig
  | .ok (.boundaryNtp c) => [c.external]
  | _ => []

/-- Where a handed-out external IP comes from: the non-DNS IPs of the pools for Nexus and
    boundary NTP, the DNS IPs of the policy for external DNS. -/
def Handed.Allowed (policy : ExternalIpPolicy) : Handed → Prop
  | .nexus c => c.external ∈ policy.intoNonExternalDnsIps
  | .boundaryNtp c => c.external.ip ∈ policy.intoNonExternalDnsIps
  | .externalDns c => c.external ∈ policy.externalDnsIps

section Ledger

variable {policy : ExternalIpPolicy} {s s' : ExternalNetworkingAllocator} {E : List IpAddr}
  {S : List SourceNatConfig}

/-- **The ledger of external IPs**: the exclusive IPs `E` and the SNAT configurations `S`
    handed out or in use, each without repeats; each exclusive IP is a non-DNS IP in use or a
    DNS IP no longer available, and each configuration's range is in use on its IP. -/
structure LedgerInv (policy : ExternalIpPolicy) (s : ExternalNetworkingAllocator)
    (E : List IpAddr) (S : List SourceNatConfig) : Prop where
  alloc : s.externalIpAlloc.Inv policy.intoNonExternalDnsIps
  available : s.availableExternalDnsIps ⊆ policy.externalDnsIps
  exclusive_nodup : E.Nodup
  snat_nodup : S.Nodup
  exclusive_used : ∀ ip ∈ E,
    (ip ∉ policy.externalDnsIps ∧ ip ∈ s.externalIpAlloc.usedExclusiveIps) ∨
      (ip ∈ policy.externalDnsIps ∧ ip ∉ s.availableExternalDnsIps)
  snat_used : ∀ cfg ∈ S, cfg.portRange ∈ s.externalIpAlloc.usedRanges cfg.ip

/-- A state whose uses grew and whose available DNS IPs shrank keeps the ledger. -/
theorem LedgerInv.of_grows (h : LedgerInv policy s E S)
    (hinv : s'.externalIpAlloc.Inv policy.intoNonExternalDnsIps)
    (hgrows : s.externalIpAlloc.Grows s'.externalIpAlloc)
    (havail : s'.availableExternalDnsIps ⊆ s.availableExternalDnsIps) : LedgerInv policy s' E S where
  alloc := hinv
  available := havail.trans h.available
  exclusive_nodup := h.exclusive_nodup
  snat_nodup := h.snat_nodup
  exclusive_used ip hip := (h.exclusive_used ip hip).imp (And.imp_right (hgrows.exclusive ip))
    (And.imp_right fun hn ha => hn (havail ha))
  snat_used cfg hcfg := hgrows.ranges cfg.ip (h.snat_used cfg hcfg)

/-- A non-DNS IP not in use exclusively is not in the ledger. -/
theorem LedgerInv.not_mem_of_unused {ip : IpAddr} (h : LedgerInv policy s E S)
    (hdns : ip ∉ policy.externalDnsIps) (hexcl : ip ∉ s.externalIpAlloc.usedExclusiveIps) :
    ip ∉ E := fun hip => by
  rcases h.exclusive_used ip hip with ⟨-, hused⟩ | ⟨hd, -⟩
  · exact hexcl hused
  · exact hdns hd

/-- An available DNS IP is not in the ledger. -/
theorem LedgerInv.not_mem_of_available {ip : IpAddr} (h : LedgerInv policy s E S)
    (havail : ip ∈ s.availableExternalDnsIps) : ip ∉ E := fun hip => by
  rcases h.exclusive_used ip hip with ⟨hd, -⟩ | ⟨-, hn⟩
  · exact hd (h.available havail)
  · exact hn havail

/-- A configuration whose range is free on its IP is not in the ledger. -/
theorem LedgerInv.not_mem_of_free {cfg : SourceNatConfig} (h : LedgerInv policy s E S)
    (hfree : cfg.portRange ∉ s.externalIpAlloc.usedRanges cfg.ip) : cfg ∉ S :=
  fun hcfg => hfree (h.snat_used cfg hcfg)

theorem LedgerInv.push_exclusive {ip : IpAddr} (h : LedgerInv policy s E S) (hfresh : ip ∉ E)
    (hused : (ip ∉ policy.externalDnsIps ∧ ip ∈ s.externalIpAlloc.usedExclusiveIps) ∨
      (ip ∈ policy.externalDnsIps ∧ ip ∉ s.availableExternalDnsIps)) :
    LedgerInv policy s (E ++ [ip]) S :=
  { h with
    exclusive_nodup := List.nodup_append.mpr ⟨h.exclusive_nodup, List.nodup_singleton ip,
      fun x hx y hy => by rw [List.mem_singleton.mp hy]; exact fun he => hfresh (he ▸ hx)⟩
    exclusive_used := fun x hx => by
      rcases List.mem_append.mp hx with hx | hx
      · exact h.exclusive_used x hx
      · rw [List.mem_singleton.mp hx]
        exact hused }

theorem LedgerInv.push_snat {cfg : SourceNatConfig} (h : LedgerInv policy s E S) (hfresh : cfg ∉ S)
    (hused : cfg.portRange ∈ s.externalIpAlloc.usedRanges cfg.ip) :
    LedgerInv policy s E (S ++ [cfg]) :=
  { h with
    snat_nodup := List.nodup_append.mpr ⟨h.snat_nodup, List.nodup_singleton cfg,
      fun x hx y hy => by rw [List.mem_singleton.mp hy]; exact fun he => hfresh (he ▸ hx)⟩
    snat_used := fun x hx => by
      rcases List.mem_append.mp hx with hx | hx
      · exact h.snat_used x hx
      · rw [List.mem_singleton.mp hx]
        exact hused }

/-- **No IP is in the ledger both ways**: a SNAT IP is a non-DNS IP of the pools not used
    exclusively. -/
theorem LedgerInv.disjoint (h : LedgerInv policy s E S) : ∀ ip ∈ E, ∀ cfg ∈ S, cfg.ip ≠ ip := by
  intro ip hip cfg hcfg heq
  have hkey : cfg.ip ∈ s.externalIpAlloc.usedSnatIps := by
    by_contra hnot
    have hranges := h.snat_used cfg hcfg
    rw [ExternalIpAllocator.usedRanges_eq_empty hnot] at hranges
    exact Finset.notMem_empty _ hranges
  rw [heq] at hkey
  rcases h.exclusive_used ip hip with ⟨-, hexcl⟩ | ⟨hdns, -⟩
  · exact h.alloc.disjoint ip hexcl hkey
  · exact (ExternalIpPolicy.mem_intoNonExternalDnsIps.mp (h.alloc.snat_mem ip hkey)).2 hdns

theorem LedgerInv.forNewNexus {r : Except ExternalNetworkingError (NetworkingChoice IpAddr)}
    (h : LedgerInv policy s E S) (hc : s.forNewNexus = (r, s')) :
    LedgerInv policy s' (E ++ exclusiveIpsOf (r.map .nexus)) (S ++ snatConfigsOf (r.map .nexus)) ∧
      ∀ c, r = .ok c → c.external ∈ policy.intoNonExternalDnsIps := by
  obtain ⟨halloc, havail, hres⟩ := forNewZone_cases hc
  obtain ⟨hr₁, ha₁, hav₁⟩ := claimExclusiveIp_eq s
  have hclaim : s.externalIpAlloc.claimNextExclusiveIp =
      ((claimExclusiveIp s).1, s'.externalIpAlloc) := by
    rw [halloc, hr₁, ha₁]
  have h' := h.of_grows (h.alloc.claimNextExclusiveIp hclaim)
    (ExternalIpAllocator.claimNextExclusiveIp_grows hclaim) (by rw [havail, hav₁])
  rcases hres with ⟨c, rfl, hok⟩ | ⟨e, rfl, -⟩
  · rw [hok] at hclaim
    obtain ⟨hpool, hexcl, -, hexcl', -⟩ :=
      ExternalIpAllocator.claimNextExclusiveIp_fresh h.alloc hclaim
    have hdns := (ExternalIpPolicy.mem_intoNonExternalDnsIps.mp hpool).2
    refine ⟨?_, fun c' hc' => by cases hc'; exact hpool⟩
    simpa only [Except.map, exclusiveIpsOf, snatConfigsOf, List.append_nil] using
      h'.push_exclusive (h.not_mem_of_unused hdns hexcl) (.inl ⟨hdns, hexcl'⟩)
  · simpa only [Except.map, exclusiveIpsOf, snatConfigsOf, List.append_nil, reduceCtorEq,
      false_implies, implies_true, and_true] using h'

theorem LedgerInv.forNewBoundaryNtp
    {r : Except ExternalNetworkingError (NetworkingChoice SourceNatConfig)}
    (h : LedgerInv policy s E S) (hc : s.forNewBoundaryNtp = (r, s')) :
    LedgerInv policy s' (E ++ exclusiveIpsOf (r.map .boundaryNtp))
        (S ++ snatConfigsOf (r.map .boundaryNtp)) ∧
      ∀ c, r = .ok c → c.external.ip ∈ policy.intoNonExternalDnsIps := by
  obtain ⟨halloc, havail, hres⟩ := forNewZone_cases hc
  obtain ⟨hr₁, ha₁, hav₁⟩ := claimSnatIp_eq s
  have hclaim : s.externalIpAlloc.claimNextSnatIp = ((claimSnatIp s).1, s'.externalIpAlloc) := by
    rw [halloc, hr₁, ha₁]
  have h' := h.of_grows (h.alloc.claimNextSnatIp hclaim)
    (ExternalIpAllocator.claimNextSnatIp_grows hclaim) (by rw [havail, hav₁])
  rcases hres with ⟨c, rfl, hok⟩ | ⟨e, rfl, -⟩
  · rw [hok] at hclaim
    obtain ⟨hpool, -, hfree, hused, -⟩ := ExternalIpAllocator.claimNextSnatIp_fresh h.alloc hclaim
    refine ⟨?_, fun c' hc' => by cases hc'; exact hpool⟩
    simpa only [Except.map, exclusiveIpsOf, snatConfigsOf, List.append_nil] using
      h'.push_snat (h.not_mem_of_free hfree) hused
  · simpa only [Except.map, exclusiveIpsOf, snatConfigsOf, List.append_nil, reduceCtorEq,
      false_implies, implies_true, and_true] using h'

theorem LedgerInv.forNewExternalDns {r : Except ExternalNetworkingError (NetworkingChoice IpAddr)}
    (h : LedgerInv policy s E S) (hc : s.forNewExternalDns = (r, s')) :
    LedgerInv policy s' (E ++ exclusiveIpsOf (r.map .externalDns))
        (S ++ snatConfigsOf (r.map .externalDns)) ∧
      ∀ c, r = .ok c → c.external ∈ policy.externalDnsIps := by
  obtain ⟨halloc, havail, hres⟩ := forNewZone_cases hc
  obtain ⟨ha₁, hpop⟩ := popFirstExternalDnsIp_cases s
  rw [ha₁] at halloc
  -- the external IPs are untouched; the DNS IPs lose at most the one popped
  have hshrink : s'.availableExternalDnsIps ⊆ s.availableExternalDnsIps := by
    rw [havail]
    rcases hpop with ⟨ip, -, -, herase⟩ | ⟨-, hsame⟩
    · rw [herase]
      exact Finset.erase_subset _ _
    · rw [hsame]
  have h' := h.of_grows (halloc ▸ h.alloc) (halloc ▸ ExternalIpAllocator.Grows.refl _) hshrink
  rcases hres with ⟨c, rfl, hok⟩ | ⟨e, rfl, -⟩
  · rcases hpop with ⟨ip, hip, havail', herase⟩ | ⟨herr, -⟩
    · rw [hok, Except.ok.injEq] at hip
      subst hip
      have hdns := h.available havail'
      refine ⟨?_, fun c' hc' => by cases hc'; exact hdns⟩
      simpa only [Except.map, exclusiveIpsOf, snatConfigsOf, List.append_nil] using
        h'.push_exclusive (h.not_mem_of_available havail')
          (.inr ⟨hdns, by rw [havail, herase]; exact Finset.notMem_erase _ _⟩)
    · rw [hok] at herr
      cases herr
  · simpa only [Except.map, exclusiveIpsOf, snatConfigsOf, List.append_nil, reduceCtorEq,
      false_implies, implies_true, and_true] using h'

/-- **Every call keeps the ledger**, with what it hands out added, and hands out an IP from
    where its kind's come. -/
theorem LedgerInv.call {c : Call} {r : Except ExternalNetworkingError Handed}
    (h : LedgerInv policy s E S) (hc : s.call c = (r, s')) :
    LedgerInv policy s' (E ++ exclusiveIpsOf r) (S ++ snatConfigsOf r) ∧
      ∀ hd, r = .ok hd → hd.Allowed policy := by
  cases c with
  | nexus =>
    rcases hf : s.forNewNexus with ⟨r₀, s₀⟩
    simp only [ExternalNetworkingAllocator.call, hf, Prod.mk.injEq] at hc
    obtain ⟨rfl, rfl⟩ := hc
    obtain ⟨hledger, hallowed⟩ := h.forNewNexus hf
    refine ⟨hledger, fun hd hhd => ?_⟩
    cases r₀ with
    | error e => cases hhd
    | ok ch =>
      cases hhd
      exact hallowed ch rfl
  | boundaryNtp =>
    rcases hf : s.forNewBoundaryNtp with ⟨r₀, s₀⟩
    simp only [ExternalNetworkingAllocator.call, hf, Prod.mk.injEq] at hc
    obtain ⟨rfl, rfl⟩ := hc
    obtain ⟨hledger, hallowed⟩ := h.forNewBoundaryNtp hf
    refine ⟨hledger, fun hd hhd => ?_⟩
    cases r₀ with
    | error e => cases hhd
    | ok ch =>
      cases hhd
      exact hallowed ch rfl
  | externalDns =>
    rcases hf : s.forNewExternalDns with ⟨r₀, s₀⟩
    simp only [ExternalNetworkingAllocator.call, hf, Prod.mk.injEq] at hc
    obtain ⟨rfl, rfl⟩ := hc
    obtain ⟨hledger, hallowed⟩ := h.forNewExternalDns hf
    refine ⟨hledger, fun hd hhd => ?_⟩
    cases r₀ with
    | error e => cases hhd
    | ok ch =>
      cases hhd
      exact hallowed ch rfl

/-- **Every run keeps the ledger**, with all it hands out added; and all it hands out comes
    from where its kind's come. -/
theorem LedgerInv.run (h : LedgerInv policy s E S) (calls : List Call) :
    LedgerInv policy (s.run calls).2 (E ++ (s.run calls).1.flatMap exclusiveIpsOf)
        (S ++ (s.run calls).1.flatMap snatConfigsOf) ∧
      ∀ r ∈ (s.run calls).1, ∀ hd, r = .ok hd → hd.Allowed policy := by
  -- induction on the calls, with the state and the ledger so far
  induction calls generalizing s E S with
  | nil => simpa [ExternalNetworkingAllocator.run] using h
  | cons c calls ih =>
    rcases hc : s.call c with ⟨r, s₁⟩
    obtain ⟨h₁, hallowed₁⟩ := h.call hc
    obtain ⟨hrest, hallowed⟩ := ih h₁
    simp only [ExternalNetworkingAllocator.run, hc, List.flatMap_cons, List.append_assoc,
      List.mem_cons] at hrest hallowed ⊢
    refine ⟨hrest, fun r' hr' hd hhd => ?_⟩
    rcases hr' with rfl | hr'
    · exact hallowed₁ hd hhd
    · exact hallowed r' hr' hd hhd

/-- **A Nexus zone fails for want of a service IP only when every non-DNS IP of the pools is
    in use**, exclusively or for SNAT. -/
theorem LedgerInv.call_nexus_error (h : LedgerInv policy s E S)
    (hc : s.call .nexus = (.error .noExternalServiceIpAvailable, s')) :
    ∀ ip ∈ policy.intoNonExternalDnsIps,
      ip ∈ s.externalIpAlloc.usedExclusiveIps ∨ ip ∈ s.externalIpAlloc.usedSnatIps := by
  rcases hf : s.forNewNexus with ⟨r₀, s₀⟩
  simp only [ExternalNetworkingAllocator.call, hf, Prod.mk.injEq] at hc
  obtain ⟨hr, -⟩ := hc
  obtain ⟨halloc, -, hres⟩ := forNewZone_cases hf
  rcases hres with ⟨c, rfl, -⟩ | ⟨e, rfl, hcause⟩
  · cases hr
  · cases hr
    -- neither the NIC address nor the MAC fails with this error: the claim did
    rcases hcause with hclaim | hmac | hnic | ⟨pe, hpe⟩
    · have hclaim' : s.externalIpAlloc.claimNextExclusiveIp =
          (.error .noExternalServiceIpAvailable, s₀.externalIpAlloc) := by
        rw [halloc, ← hclaim]
        rfl
      exact (ExternalIpAllocator.claimNextExclusiveIp_error h.alloc hclaim').2
    · cases hmac
    · cases hnic
    · cases hpe

/-- **A boundary NTP zone fails for want of a service IP only when every non-DNS IP of the
    pools is used exclusively or has its four port ranges in use.** -/
theorem LedgerInv.call_boundaryNtp_error (h : LedgerInv policy s E S)
    (hc : s.call .boundaryNtp = (.error .noExternalServiceIpAvailable, s')) :
    ∀ ip ∈ policy.intoNonExternalDnsIps, ip ∈ s.externalIpAlloc.usedExclusiveIps ∨
      ∀ r, r ∈ s.externalIpAlloc.usedRanges ip := by
  rcases hf : s.forNewBoundaryNtp with ⟨r₀, s₀⟩
  simp only [ExternalNetworkingAllocator.call, hf, Prod.mk.injEq] at hc
  obtain ⟨hr, -⟩ := hc
  obtain ⟨halloc, -, hres⟩ := forNewZone_cases hf
  rcases hres with ⟨c, rfl, -⟩ | ⟨e, rfl, hcause⟩
  · cases hr
  · cases hr
    rcases hcause with hclaim | hmac | hnic | ⟨pe, hpe⟩
    · have hclaim' : s.externalIpAlloc.claimNextSnatIp =
          (.error .noExternalServiceIpAvailable, s₀.externalIpAlloc) := by
        rw [halloc, ← hclaim]
        rfl
      exact (ExternalIpAllocator.claimNextSnatIp_error h.alloc hclaim').2
    · cases hmac
    · cases hnic
    · cases hpe

end Ledger

end ExternalNetworkingAllocator

/-! ## 6. The zones in service start the ledger -/

namespace BlueprintZoneType

/-- The exclusive IP of a zone in service: a Nexus or external DNS zone's. -/
def exclusiveIps : BlueprintZoneType → List IpAddr
  | .nexus externalIp _ => [externalIp]
  | .externalDns dnsAddress _ => [dnsAddress]
  | _ => []

/-- The SNAT configuration of a zone in service: a boundary NTP zone's. -/
def snatConfigs : BlueprintZoneType → List SourceNatConfig
  | .boundaryNtp externalIp _ => [externalIp]
  | _ => []

/-- What is assumed of a zone in service: its external IP is no loopback and lies in the pools,
    and is no external DNS IP of the policy unless the zone is an external DNS zone. -/
def Assumed (policy : ExternalIpPolicy) : BlueprintZoneType → Prop
  | .nexus externalIp _ =>
    externalIp.isLoopback = false ∧ externalIp ∈ policy.intoNonExternalDnsIps
  | .boundaryNtp externalIp _ =>
    externalIp.ip.isLoopback = false ∧ externalIp.ip ∈ policy.intoNonExternalDnsIps
  | .externalDns dnsAddress _ => dnsAddress.isLoopback = false ∧ dnsAddress ∈ policy.poolIps
  | .other => True

end BlueprintZoneType

namespace UsedResources

variable {u u' : UsedResources}

/-- Recording NIC addresses touches neither the external IPs nor the DNS IPs. -/
theorem insertNicIps_frame {kind : ZoneKind} {nic : NetworkInterface}
    (h : u.insertNicIps kind nic = .ok u') :
    u'.externalIpAlloc = u.externalIpAlloc ∧ u'.usedExternalDnsIps = u.usedExternalDnsIps := by
  unfold insertNicIps at h
  obtain ⟨u₁, h₁, h₂⟩ := Except.bind_eq_ok_iff.mp h
  have hframe₁ : u₁.externalIpAlloc = u.externalIpAlloc ∧
      u₁.usedExternalDnsIps = u.usedExternalDnsIps := by
    split at h₁
    · split at h₁
      · exact absurd h₁ Except.throw_ne_ok
      · cases Except.pure_eq_ok_iff.mp h₁
        exact ⟨rfl, rfl⟩
    · cases Except.pure_eq_ok_iff.mp h₁
      exact ⟨rfl, rfl⟩
  split at h₂
  · split at h₂
    · exact absurd h₂ Except.throw_ne_ok
    · cases Except.pure_eq_ok_iff.mp h₂
      exact hframe₁
  · cases Except.pure_eq_ok_iff.mp h₂
    exact hframe₁

/-- Marking a zone's external networking marks its IP, unless loopback, and keeps the DNS IPs. -/
theorem markExternalNetworking_eq_ok {e : OmicronZoneExternalIp} {nic : NetworkInterface}
    (h : u.markExternalNetworking e nic = .ok u') :
    u'.usedExternalDnsIps = u.usedExternalDnsIps ∧
      (e.ip.isLoopback = false → u.externalIpAlloc.markIpUsed e = .ok u'.externalIpAlloc) := by
  unfold markExternalNetworking at h
  obtain ⟨u₁, h₁, h₂⟩ := Except.bind_eq_ok_iff.mp h
  have hu' : u' = { u₁ with usedMacs := insert nic.mac u₁.usedMacs } := by
    split at h₂
    · exact absurd h₂ Except.throw_ne_ok
    · exact (Except.pure_eq_ok_iff.mp h₂).symm
  subst hu'
  split at h₁
  · cases Except.pure_eq_ok_iff.mp h₁
    exact ⟨rfl, fun hloop => by simp_all⟩
  · rename_i hloop
    split at h₁
    · rename_i alloc halloc
      cases Except.pure_eq_ok_iff.mp h₁
      exact ⟨rfl, fun _ => halloc⟩
    · exact absurd h₁ Except.throw_ne_ok

end UsedResources

namespace ExternalNetworkingAllocator

section Scan

variable {policy : ExternalIpPolicy} {u u' : UsedResources} {E : List IpAddr}
  {S : List SourceNatConfig}

/-- What the scan of `new` keeps of the zones scanned so far: the ledger, with an exclusive DNS
    IP in use as an external DNS IP of a zone. -/
structure ScanInv (policy : ExternalIpPolicy) (u : UsedResources) (E : List IpAddr)
    (S : List SourceNatConfig) : Prop where
  alloc : u.externalIpAlloc.Inv policy.intoNonExternalDnsIps
  exclusive_nodup : E.Nodup
  snat_nodup : S.Nodup
  exclusive_used : ∀ ip ∈ E, ip ∈ u.externalIpAlloc.usedExclusiveIps ∧
    (ip ∉ policy.externalDnsIps ∨ ip ∈ u.usedExternalDnsIps)
  snat_used : ∀ cfg ∈ S, cfg.portRange ∈ u.externalIpAlloc.usedRanges cfg.ip

theorem ScanInv.empty (policy : ExternalIpPolicy) :
    ScanInv policy (UsedResources.empty policy) [] [] where
  alloc := ExternalIpAllocator.Inv.new policy
  exclusive_nodup := List.nodup_nil
  snat_nodup := List.nodup_nil
  exclusive_used := by simp
  snat_used := by simp

theorem ScanInv.of_frame (h : ScanInv policy u E S) (halloc : u'.externalIpAlloc = u.externalIpAlloc)
    (hdns : u.usedExternalDnsIps ⊆ u'.usedExternalDnsIps) : ScanInv policy u' E S where
  alloc := halloc ▸ h.alloc
  exclusive_nodup := h.exclusive_nodup
  snat_nodup := h.snat_nodup
  exclusive_used ip hip := by
    rw [halloc]
    exact (h.exclusive_used ip hip).imp_right (Or.imp_right (@hdns ip))
  snat_used cfg hcfg := halloc ▸ h.snat_used cfg hcfg

/-- Marking a floating IP of a zone adds it to the ledger. -/
theorem ScanInv.markFloating {ip : IpAddr} (h : ScanInv policy u E S)
    (hmark : u.externalIpAlloc.markIpUsed (.floating ip) = .ok u'.externalIpAlloc)
    (hsub : u.usedExternalDnsIps ⊆ u'.usedExternalDnsIps)
    (hdns : ip ∉ policy.externalDnsIps ∨ ip ∈ u'.usedExternalDnsIps) :
    ScanInv policy u' (E ++ [ip]) S := by
  have hgrows := ExternalIpAllocator.markIpUsed_grows hmark
  rcases ExternalIpAllocator.markIpUsed_cases hmark with
    ⟨ip', he, -, hexcl, halloc⟩ | ⟨cfg, he, -⟩
  · cases he
    refine ⟨h.alloc.markIpUsed (fun _ he => by cases he) hmark, ?_, h.snat_nodup, ?_,
      fun cfg hcfg => hgrows.ranges cfg.ip (h.snat_used cfg hcfg)⟩
    · -- the IP was not exclusive, and every IP of the ledger is
      refine List.nodup_append.mpr ⟨h.exclusive_nodup, List.nodup_singleton ip, ?_⟩
      intro x hx y hy
      rw [List.mem_singleton.mp hy]
      exact fun hxy => hexcl (hxy ▸ (h.exclusive_used x hx).1)
    · intro x hx
      rcases List.mem_append.mp hx with hx | hx
      · obtain ⟨hused, hd⟩ := h.exclusive_used x hx
        exact ⟨hgrows.exclusive x hused, hd.imp_right (@hsub x)⟩
      · rw [List.mem_singleton.mp hx, halloc]
        exact ⟨Finset.mem_insert_self ip _, hdns⟩
  · cases he

/-- Marking a SNAT configuration of a zone adds it to the ledger. -/
theorem ScanInv.markSnat {cfg : SourceNatConfig} (h : ScanInv policy u E S)
    (hmark : u.externalIpAlloc.markIpUsed (.snat cfg) = .ok u'.externalIpAlloc)
    (hpool : cfg.ip ∈ policy.intoNonExternalDnsIps)
    (hsub : u.usedExternalDnsIps ⊆ u'.usedExternalDnsIps) : ScanInv policy u' E (S ++ [cfg]) := by
  have hgrows := ExternalIpAllocator.markIpUsed_grows hmark
  rcases ExternalIpAllocator.markIpUsed_cases hmark with
    ⟨ip, he, -⟩ | ⟨cfg', he, -, hfree, halloc⟩
  · cases he
  · cases he
    refine ⟨h.alloc.markIpUsed (fun c he => by cases he; exact hpool) hmark, h.exclusive_nodup,
      ?_, fun x hx => ?_, fun x hx => ?_⟩
    · -- the range was free, and every range of the ledger is in use
      refine List.nodup_append.mpr ⟨h.snat_nodup, List.nodup_singleton cfg, ?_⟩
      intro x hx y hy
      rw [List.mem_singleton.mp hy]
      exact fun hxy => hfree (hxy ▸ h.snat_used x hx)
    · obtain ⟨hused, hd⟩ := h.exclusive_used x hx
      exact ⟨hgrows.exclusive x hused, hd.imp_right (@hsub x)⟩
    · rcases List.mem_append.mp hx with hx | hx
      · exact hgrows.ranges x.ip (h.snat_used x hx)
      · rw [List.mem_singleton.mp hx, halloc]
        simp

/-- **One round of the scan adds the zone to the ledger.** -/
theorem ScanInv.scanZone {z : BlueprintZoneType} (h : ScanInv policy u E S)
    (hz : z.Assumed policy) (hs : u.scanZone z = .ok u') :
    ScanInv policy u' (E ++ z.exclusiveIps) (S ++ z.snatConfigs) := by
  unfold UsedResources.scanZone at hs
  obtain ⟨u₁, h₁, h₂⟩ := Except.bind_eq_ok_iff.mp hs
  cases z with
  | other =>
    cases Except.pure_eq_ok_iff.mp h₁
    cases Except.pure_eq_ok_iff.mp h₂
    simpa [BlueprintZoneType.exclusiveIps, BlueprintZoneType.snatConfigs] using h
  | nexus externalIp nic =>
    obtain ⟨halloc₁, hdns₁⟩ := UsedResources.insertNicIps_frame h₁
    obtain ⟨hdns₂, hmark⟩ := UsedResources.markExternalNetworking_eq_ok h₂
    have hmark' := halloc₁ ▸ hmark hz.1
    have hpool := ExternalIpPolicy.mem_intoNonExternalDnsIps.mp hz.2
    simpa only [BlueprintZoneType.exclusiveIps, BlueprintZoneType.snatConfigs, List.append_nil]
      using h.markFloating hmark' (by rw [hdns₂, hdns₁]) (.inl hpool.2)
  | boundaryNtp externalIp nic =>
    obtain ⟨halloc₁, hdns₁⟩ := UsedResources.insertNicIps_frame h₁
    obtain ⟨hdns₂, hmark⟩ := UsedResources.markExternalNetworking_eq_ok h₂
    have hmark' := halloc₁ ▸ hmark hz.1
    simpa only [BlueprintZoneType.exclusiveIps, BlueprintZoneType.snatConfigs, List.append_nil]
      using h.markSnat hmark' hz.2 (by rw [hdns₂, hdns₁])
  | externalDns dnsAddress nic =>
    -- the DNS IP is recorded before the NIC addresses
    dsimp only at h₁
    split at h₁
    · exact absurd h₁ Except.throw_ne_ok
    · obtain ⟨halloc₁, hdns₁⟩ := UsedResources.insertNicIps_frame h₁
      obtain ⟨hdns₂, hmark⟩ := UsedResources.markExternalNetworking_eq_ok h₂
      have hmark' := halloc₁ ▸ hmark hz.1
      have hsub : u.usedExternalDnsIps ⊆ u'.usedExternalDnsIps := by
        rw [hdns₂, hdns₁]
        exact Finset.subset_insert _ _
      have hmem : dnsAddress ∈ u'.usedExternalDnsIps := by
        rw [hdns₂, hdns₁]
        exact Finset.mem_insert_self _ _
      simpa only [BlueprintZoneType.exclusiveIps, BlueprintZoneType.snatConfigs, List.append_nil]
        using h.markFloating hmark' hsub (.inr hmem)

/-- **The scan adds every zone to the ledger.** -/
theorem ScanInv.foldlM (h : ScanInv policy u E S) (zones : List BlueprintZoneType)
    (hz : ∀ z ∈ zones, z.Assumed policy) (hs : zones.foldlM UsedResources.scanZone u = .ok u') :
    ScanInv policy u' (E ++ zones.flatMap BlueprintZoneType.exclusiveIps)
      (S ++ zones.flatMap BlueprintZoneType.snatConfigs) := by
  induction zones generalizing u E S with
  | nil =>
    cases Except.pure_eq_ok_iff.mp hs
    simpa using h
  | cons z zones ih =>
    rw [List.foldlM_cons] at hs
    obtain ⟨u₁, h₁, hrest⟩ := Except.bind_eq_ok_iff.mp hs
    have h₁' := h.scanZone (hz z List.mem_cons_self) h₁
    simpa only [List.flatMap_cons, List.append_assoc] using
      ih h₁' (fun z' hz' => hz z' (List.mem_cons_of_mem z hz')) hrest

end Scan

/-- **`new` starts the ledger** with the external IPs of the zones in service. -/
theorem ledgerInv_new {zones : List BlueprintZoneType} {policy : ExternalIpPolicy}
    {s : ExternalNetworkingAllocator} (hz : ∀ z ∈ zones, z.Assumed policy)
    (hnew : new zones policy = .ok s) :
    LedgerInv policy s (zones.flatMap BlueprintZoneType.exclusiveIps)
      (zones.flatMap BlueprintZoneType.snatConfigs) := by
  unfold new at hnew
  obtain ⟨u, hfold, hrest⟩ := Except.bind_eq_ok_iff.mp hnew
  have hs : s = ofUsed u policy := by
    dsimp only at hrest
    split at hrest
    · exact absurd hrest Except.throw_ne_ok
    · exact (Except.pure_eq_ok_iff.mp hrest).symm
  subst hs
  have hscan := (ScanInv.empty policy).foldlM zones hz hfold
  simp only [List.nil_append] at hscan
  refine ⟨hscan.alloc, Finset.sdiff_subset, hscan.exclusive_nodup, hscan.snat_nodup,
    fun ip hip => ?_, hscan.snat_used⟩
  -- a DNS IP in the ledger is one a zone in service has, so it is not available
  obtain ⟨hused, hd⟩ := hscan.exclusive_used ip hip
  by_cases hdns : ip ∈ policy.externalDnsIps
  · refine .inr ⟨hdns, fun havail => ?_⟩
    rcases hd with hn | hmem
    · exact hn hdns
    · exact (Finset.mem_sdiff.mp havail).2 hmem
  · exact .inl ⟨hdns, hused⟩

/-- The external IP a call hands out. -/
def Handed.ip : Handed → IpAddr
  | .nexus c => c.external
  | .boundaryNtp c => c.external.ip
  | .externalDns c => c.external

/-- **What every run after `new` hands out**, for a built policy and zones in service as
    assumed: no exclusive IP twice, no SNAT configuration twice, no IP both ways, counting the
    zones in service; Nexus and boundary NTP IPs are non-DNS IPs of the pools, external DNS IPs
    are DNS IPs of the policy, and all lie in the pools. -/
theorem new_run_spec {b : ExternalIpPolicyBuilder} {zones : List BlueprintZoneType}
    {s : ExternalNetworkingAllocator} (hb : b.Built) (hz : ∀ z ∈ zones, z.Assumed b.build)
    (hnew : new zones b.build = .ok s) (calls : List Call) :
    (zones.flatMap BlueprintZoneType.exclusiveIps ++
        (s.run calls).1.flatMap exclusiveIpsOf).Nodup ∧
      (zones.flatMap BlueprintZoneType.snatConfigs ++
        (s.run calls).1.flatMap snatConfigsOf).Nodup ∧
      (∀ ip ∈ zones.flatMap BlueprintZoneType.exclusiveIps ++
          (s.run calls).1.flatMap exclusiveIpsOf,
        ∀ cfg ∈ zones.flatMap BlueprintZoneType.snatConfigs ++
          (s.run calls).1.flatMap snatConfigsOf, cfg.ip ≠ ip) ∧
      ∀ r ∈ (s.run calls).1, ∀ hd, r = .ok hd →
        hd.Allowed b.build ∧ hd.ip ∈ b.build.poolIps := by
  obtain ⟨hledger, hallowed⟩ := (ledgerInv_new hz hnew).run calls
  refine ⟨hledger.exclusive_nodup, hledger.snat_nodup, hledger.disjoint, ?_⟩
  intro r hr hd hhd
  have hok := hallowed r hr hd hhd
  refine ⟨hok, ?_⟩
  -- the non-DNS IPs lie in the pools, and so do the DNS IPs of a built policy
  cases hd with
  | nexus c => exact (ExternalIpPolicy.mem_intoNonExternalDnsIps.mp hok).1
  | boundaryNtp c => exact (ExternalIpPolicy.mem_intoNonExternalDnsIps.mp hok).1
  | externalDns c => exact hb.externalDnsIps_mem_poolIps _ hok

/-- **Running out of service IPs, after any run after `new`, means the pools are used up**: for
    a Nexus zone every non-DNS IP of the pools is in use; for a boundary NTP zone each is used
    exclusively or has its four port ranges in use. -/
theorem new_run_service_ip_error {zones : List BlueprintZoneType} {policy : ExternalIpPolicy}
    {s s' : ExternalNetworkingAllocator} (hz : ∀ z ∈ zones, z.Assumed policy)
    (hnew : new zones policy = .ok s) (calls : List Call) :
    ((s.run calls).2.call .nexus = (.error .noExternalServiceIpAvailable, s') →
      ∀ ip ∈ policy.intoNonExternalDnsIps,
        ip ∈ (s.run calls).2.externalIpAlloc.usedExclusiveIps ∨
          ip ∈ (s.run calls).2.externalIpAlloc.usedSnatIps) ∧
    ((s.run calls).2.call .boundaryNtp = (.error .noExternalServiceIpAvailable, s') →
      ∀ ip ∈ policy.intoNonExternalDnsIps,
        ip ∈ (s.run calls).2.externalIpAlloc.usedExclusiveIps ∨
          ∀ r, r ∈ (s.run calls).2.externalIpAlloc.usedRanges ip) := by
  have hledger := ((ledgerInv_new hz hnew).run calls).1
  exact ⟨hledger.call_nexus_error, hledger.call_boundaryNtp_error⟩

end ExternalNetworkingAllocator

/-! ## 7. NIC addresses -/

namespace BlueprintZoneType

/-- The kind and the NIC of a zone with external networking. -/
def kindNic : BlueprintZoneType → Option (ZoneKind × NetworkInterface)
  | .boundaryNtp _ nic => some (.boundaryNtp, nic)
  | .nexus _ nic => some (.nexus, nic)
  | .externalDns _ nic => some (.externalDns, nic)
  | .other => none

/-- The version-4 NIC address of a zone of kind `kind`. -/
def nicIpv4Of (kind : ZoneKind) (z : BlueprintZoneType) : Option (Fin (2 ^ 32)) :=
  z.kindNic.bind fun (k, nic) => if k = kind then nic.ipConfig.ipv4Addr else none

end BlueprintZoneType

namespace UsedResources

variable {u u' : UsedResources}

/-- Recording a NIC of kind `k` adds its version-4 address to the set of `k` only. -/
theorem insertNicIps_existingV4Ips {k : ZoneKind} {nic : NetworkInterface}
    (h : u.insertNicIps k nic = .ok u') (kind : ZoneKind) :
    u'.existingV4Ips kind =
      u.existingV4Ips kind ∪ (if k = kind then nic.ipConfig.ipv4Addr else none).toFinset := by
  unfold insertNicIps at h
  obtain ⟨u₁, h₁, h₂⟩ := Except.bind_eq_ok_iff.mp h
  -- the version-6 address leaves the version-4 sets as they are
  have hv6 : u'.existingV4Ips = u₁.existingV4Ips := by
    split at h₂
    · split at h₂
      · exact absurd h₂ Except.throw_ne_ok
      · cases Except.pure_eq_ok_iff.mp h₂
        rfl
    · cases Except.pure_eq_ok_iff.mp h₂
      rfl
  rw [hv6]
  split at h₁
  · rename_i ip hip
    split at h₁
    · exact absurd h₁ Except.throw_ne_ok
    · cases Except.pure_eq_ok_iff.mp h₁
      by_cases hk : k = kind
      · subst hk
        simp [hip]
      · simp [Function.update_of_ne (Ne.symm hk), hk]
  · rename_i hip
    cases Except.pure_eq_ok_iff.mp h₁
    by_cases hk : k = kind <;> simp [hk, hip]

theorem markExternalNetworking_existingV4Ips {e : OmicronZoneExternalIp} {nic : NetworkInterface}
    (h : u.markExternalNetworking e nic = .ok u') : u'.existingV4Ips = u.existingV4Ips := by
  unfold markExternalNetworking at h
  obtain ⟨u₁, h₁, h₂⟩ := Except.bind_eq_ok_iff.mp h
  have hu₁ : u₁.existingV4Ips = u.existingV4Ips := by
    split at h₁
    · cases Except.pure_eq_ok_iff.mp h₁
      rfl
    · split at h₁
      · cases Except.pure_eq_ok_iff.mp h₁
        rfl
      · exact absurd h₁ Except.throw_ne_ok
  split at h₂
  · exact absurd h₂ Except.throw_ne_ok
  · cases Except.pure_eq_ok_iff.mp h₂
    exact hu₁

/-- One round of the scan adds the zone's version-4 NIC address to the set of its kind. -/
theorem scanZone_existingV4Ips {z : BlueprintZoneType} (h : u.scanZone z = .ok u')
    (kind : ZoneKind) :
    u'.existingV4Ips kind = u.existingV4Ips kind ∪ (z.nicIpv4Of kind).toFinset := by
  unfold scanZone at h
  obtain ⟨u₁, h₁, h₂⟩ := Except.bind_eq_ok_iff.mp h
  cases z with
  | other =>
    cases Except.pure_eq_ok_iff.mp h₁
    cases Except.pure_eq_ok_iff.mp h₂
    simp [BlueprintZoneType.nicIpv4Of, BlueprintZoneType.kindNic]
  | nexus externalIp nic =>
    rw [markExternalNetworking_existingV4Ips h₂, insertNicIps_existingV4Ips h₁]
    rfl
  | boundaryNtp externalIp nic =>
    rw [markExternalNetworking_existingV4Ips h₂, insertNicIps_existingV4Ips h₁]
    rfl
  | externalDns dnsAddress nic =>
    dsimp only at h₁
    split at h₁
    · exact absurd h₁ Except.throw_ne_ok
    · rw [markExternalNetworking_existingV4Ips h₂, insertNicIps_existingV4Ips h₁]
      rfl

theorem foldlM_scanZone_existingV4Ips {zones : List BlueprintZoneType}
    (h : zones.foldlM scanZone u = .ok u') (kind : ZoneKind) :
    u'.existingV4Ips kind =
      u.existingV4Ips kind ∪ (zones.filterMap (BlueprintZoneType.nicIpv4Of kind)).toFinset := by
  induction zones generalizing u with
  | nil =>
    cases Except.pure_eq_ok_iff.mp h
    simp
  | cons z zones ih =>
    rw [List.foldlM_cons] at h
    obtain ⟨u₁, h₁, hrest⟩ := Except.bind_eq_ok_iff.mp h
    rw [ih hrest, scanZone_existingV4Ips h₁, List.filterMap_cons]
    cases z.nicIpv4Of kind <;> simp

end UsedResources

namespace ExternalNetworkingAllocator

/-- **The version-4 NIC addresses of a kind skip only those of the zones of that kind**: the
    iterator `new` builds walks the kind's subnet past the reserved addresses, and passes over
    the version-4 NIC addresses of the zones in service of the same kind, and no others. -/
theorem opteV4Ips_new {zones : List BlueprintZoneType} {policy : ExternalIpPolicy}
    {s : ExternalNetworkingAllocator} (hnew : new zones policy = .ok s) (kind : ZoneKind) :
    s.opteV4Ips kind =
      ⟨(opteIpv4Subnet kind).addrIter.drop numInitialReservedIpAddresses,
        (zones.filterMap (BlueprintZoneType.nicIpv4Of kind)).toFinset⟩ := by
  unfold new at hnew
  obtain ⟨u, hfold, hrest⟩ := Except.bind_eq_ok_iff.mp hnew
  dsimp only at hrest
  split at hrest
  · exact absurd hrest Except.throw_ne_ok
  · cases Except.pure_eq_ok_iff.mp hrest
    simp only [ofUsed, UsedResources.foldlM_scanZone_existingV4Ips hfold kind]
    simp [UsedResources.empty]

/-- The pool of the failing run below: `10.0.0.1` to `10.0.0.2`. -/
def twoIpRange : Ipv4Range := ⟨⟨0x0A000001, by decide⟩, ⟨0x0A000002, by decide⟩⟩

/-- The first address of the boundary NTP subnet past the reserved ones: `172.30.3.5`. -/
def ntpFirstNicIp : Fin (2 ^ 32) := ⟨0xAC1E0305, by decide⟩

/-- A Nexus zone in service on `10.0.0.1` whose NIC has the address `172.30.3.5`, in the boundary
    NTP subnet. -/
def nexusZoneOnNtpNicIp : BlueprintZoneType :=
  .nexus (.v4 ⟨0x0A000001, by decide⟩) ⟨.v4 ⟨ntpFirstNicIp, ntpOpteIpv4Subnet⟩, ⟨0⟩⟩

end ExternalNetworkingAllocator

/-! ## 8. MACs -/

namespace AvailableIterator

variable {α : Type} [DecidableEq α]

/-- What an iterator has handed out, and the items in use, as `M`: no item twice, each still in
    use or gone from a base without repeats, so that the base yields none of them again. -/
structure Fresh (it : AvailableIterator α) (M : List α) : Prop where
  base_nodup : it.base.Nodup
  nodup : M.Nodup
  used_or_gone : ∀ x ∈ M, x ∈ it.inUse ∨ x ∉ it.base

/-- **`next` hands out a fresh item**: one not in `M`, after which `M` with it is fresh for the
    iterator left, whose base is part of the old one and whose items in use are the same. -/
theorem Fresh.next {it : AvailableIterator α} {M : List α} (h : it.Fresh M) :
    it.next.2.Fresh (M ++ it.next.1.toList) ∧ it.next.2.inUse = it.inUse ∧
      (∀ x ∈ it.next.2.base, x ∈ it.base) ∧ ∀ x ∈ it.next.1.toList, x ∈ it.base := by
  unfold AvailableIterator.next
  rcases hf : it.base.findConsume (fun item => item ∉ it.inUse) with ⟨_ | a, rest⟩ <;> dsimp only
  · -- nothing left to hand out: the base is used up
    obtain ⟨rfl, -⟩ := List.findConsume_eq_none hf
    exact ⟨⟨List.nodup_nil, by simpa using h.nodup, fun x _ => .inr List.not_mem_nil⟩, rfl,
      fun x hx => absurd hx List.not_mem_nil, fun x hx => absurd hx List.not_mem_nil⟩
  · obtain ⟨pre, hbase, -, ha⟩ := List.findConsume_eq_some hf
    have hnodup : (pre ++ a :: rest).Nodup := hbase ▸ h.base_nodup
    have hrest : rest.Nodup := (List.nodup_append.mp hnodup).2.1.of_cons
    have ha_rest : a ∉ rest := (List.nodup_cons.mp (List.nodup_append.mp hnodup).2.1).1
    have ha_base : a ∈ it.base := by
      rw [hbase]
      exact List.mem_append_right _ List.mem_cons_self
    have ha_used : a ∉ it.inUse := by simpa using ha
    have hsub : ∀ x ∈ rest, x ∈ it.base := fun x hx => by
      rw [hbase]
      exact List.mem_append_right _ (List.mem_cons_of_mem a hx)
    -- the item found is neither in use nor gone, so it is none of `M`
    have hnew : a ∉ M := fun haM => by
      rcases h.used_or_gone a haM with hu | hg
      · exact ha_used hu
      · exact hg ha_base
    refine ⟨⟨hrest, List.nodup_append.mpr ⟨h.nodup, List.nodup_singleton a, ?_⟩, ?_⟩, rfl, hsub,
      fun x hx => ?_⟩
    · intro x hx y hy hxy
      rw [List.mem_singleton.mp hy] at hxy
      exact hnew (hxy ▸ hx)
    · intro x hx
      rcases List.mem_append.mp hx with hx | hx
      · exact (h.used_or_gone x hx).imp_right fun hg hr => hg (hsub x hr)
      · rw [Option.toList_some, List.mem_singleton] at hx
        rw [hx]
        exact .inr ha_rest
    · rw [Option.toList_some, List.mem_singleton] at hx
      rw [hx]
      exact ha_base

end AvailableIterator

/-- The MAC of a zone in service. -/
def BlueprintZoneType.macs (z : BlueprintZoneType) : List MacAddr :=
  (z.externalNetworking.map (·.2.mac)).toList

theorem MacAddr.nodup_iterSystem : MacAddr.iterSystem.Nodup := by
  refine List.Nodup.map (fun a b hab => ?_) (List.nodup_range' 1 Nat.one_pos)
  exact congrArg MacAddr.value hab

namespace UsedResources

variable {u u' : UsedResources}

theorem insertNicIps_usedMacs {kind : ZoneKind} {nic : NetworkInterface}
    (h : u.insertNicIps kind nic = .ok u') : u'.usedMacs = u.usedMacs := by
  unfold insertNicIps at h
  obtain ⟨u₁, h₁, h₂⟩ := Except.bind_eq_ok_iff.mp h
  have hu₁ : u₁.usedMacs = u.usedMacs := by
    split at h₁
    · split at h₁
      · exact absurd h₁ Except.throw_ne_ok
      · cases Except.pure_eq_ok_iff.mp h₁
        rfl
    · cases Except.pure_eq_ok_iff.mp h₁
      rfl
  split at h₂
  · split at h₂
    · exact absurd h₂ Except.throw_ne_ok
    · cases Except.pure_eq_ok_iff.mp h₂
      exact hu₁
  · cases Except.pure_eq_ok_iff.mp h₂
    exact hu₁

/-- Marking a zone's external networking records its MAC, which must be new. -/
theorem markExternalNetworking_usedMacs {e : OmicronZoneExternalIp} {nic : NetworkInterface}
    (h : u.markExternalNetworking e nic = .ok u') :
    u'.usedMacs = insert nic.mac u.usedMacs ∧ nic.mac ∉ u.usedMacs := by
  unfold markExternalNetworking at h
  obtain ⟨u₁, h₁, h₂⟩ := Except.bind_eq_ok_iff.mp h
  have hu₁ : u₁.usedMacs = u.usedMacs := by
    split at h₁
    · cases Except.pure_eq_ok_iff.mp h₁
      rfl
    · split at h₁
      · cases Except.pure_eq_ok_iff.mp h₁
        rfl
      · exact absurd h₁ Except.throw_ne_ok
  split at h₂
  · exact absurd h₂ Except.throw_ne_ok
  · next hnew =>
    cases Except.pure_eq_ok_iff.mp h₂
    rw [hu₁] at hnew ⊢
    exact ⟨rfl, hnew⟩

/-- One round of the scan records the zone's MAC, refusing one already recorded. -/
theorem scanZone_usedMacs {z : BlueprintZoneType} (h : u.scanZone z = .ok u') :
    u'.usedMacs = u.usedMacs ∪ z.macs.toFinset ∧ ∀ mac ∈ z.macs, mac ∉ u.usedMacs := by
  unfold scanZone at h
  obtain ⟨u₁, h₁, h₂⟩ := Except.bind_eq_ok_iff.mp h
  have hu₁ : u₁.usedMacs = u.usedMacs := by
    split at h₁
    · exact insertNicIps_usedMacs h₁
    · exact insertNicIps_usedMacs h₁
    · split at h₁
      · exact absurd h₁ Except.throw_ne_ok
      · have hdns := insertNicIps_usedMacs h₁
        exact hdns
    · cases Except.pure_eq_ok_iff.mp h₁
      rfl
  rw [← hu₁]
  unfold BlueprintZoneType.macs
  split at h₂
  · next externalIp nic hnet =>
    obtain ⟨hmacs, hnew⟩ := markExternalNetworking_usedMacs h₂
    rw [hnet, hmacs]
    refine ⟨?_, fun mac hmac => ?_⟩
    · ext mac
      simp
    · simp only [Option.map_some, Option.toList_some, List.mem_singleton] at hmac
      exact hmac ▸ hnew
  · next hnet =>
    cases Except.pure_eq_ok_iff.mp h₂
    rw [hnet]
    exact ⟨by simp, fun mac hmac => absurd hmac List.not_mem_nil⟩

/-- **The scan records the MACs of the zones in service, and none twice.** -/
theorem foldlM_scanZone_usedMacs {zones : List BlueprintZoneType} {M : List MacAddr}
    (hM : M.Nodup) (hu : ∀ mac, mac ∈ u.usedMacs ↔ mac ∈ M)
    (h : zones.foldlM scanZone u = .ok u') :
    (M ++ zones.flatMap BlueprintZoneType.macs).Nodup ∧
      ∀ mac, mac ∈ u'.usedMacs ↔ mac ∈ M ++ zones.flatMap BlueprintZoneType.macs := by
  induction zones generalizing u M with
  | nil =>
    cases Except.pure_eq_ok_iff.mp h
    simpa using ⟨hM, hu⟩
  | cons z zones ih =>
    rw [List.foldlM_cons] at h
    obtain ⟨u₁, h₁, hrest⟩ := Except.bind_eq_ok_iff.mp h
    obtain ⟨hmacs, hnew⟩ := scanZone_usedMacs h₁
    -- a zone has at most one MAC, new to those before it
    have hz : z.macs.Nodup := by
      unfold BlueprintZoneType.macs
      cases z.externalNetworking <;> simp
    have hM₁ : (M ++ z.macs).Nodup := List.nodup_append.mpr ⟨hM, hz,
      fun x hx y hy hxy => hnew y hy ((hu y).mpr (hxy ▸ hx))⟩
    have hu₁ : ∀ mac, mac ∈ u₁.usedMacs ↔ mac ∈ M ++ z.macs := fun mac => by
      rw [hmacs, Finset.mem_union, hu, List.mem_toFinset, List.mem_append]
    simpa only [List.flatMap_cons, List.append_assoc] using ih hM₁ hu₁ hrest

end UsedResources

namespace ExternalNetworkingAllocator

/-- The MAC a call hands out. -/
def Handed.nicMac : Handed → MacAddr
  | .nexus c => c.nicMac
  | .boundaryNtp c => c.nicMac
  | .externalDns c => c.nicMac

/-- The MAC of a call's result: none when it failed. -/
def macsOf (r : Except ExternalNetworkingError Handed) : List MacAddr :=
  (r.toOption.map Handed.nicMac).toList

/-- **A `for_new_*` hands out what the MAC iterator yields, or leaves it alone**: a claim that
    leaves the MACs as they are, then the NIC address, which does too, and at most one `next`. -/
theorem forNewZone_macs {ρ : Type} {kind : ZoneKind} {s s' : ExternalNetworkingAllocator}
    {claim : ExternalNetworkingAllocator →
      Except ExternalNetworkingError ρ × ExternalNetworkingAllocator}
    {ipOf : ρ → IpAddr} {r : Except ExternalNetworkingError (NetworkingChoice ρ)}
    (hclaim : (claim s).2.availableSystemMacs = s.availableSystemMacs)
    (h : forNewZone kind claim ipOf s = (r, s')) :
    (r.toOption.map (·.nicMac) = none ∧ s'.availableSystemMacs = s.availableSystemMacs) ∨
      ((r.toOption.map (·.nicMac)).toList = s.availableSystemMacs.next.1.toList ∧
        s'.availableSystemMacs = s.availableSystemMacs.next.2) := by
  unfold forNewZone at h
  split at h
  · next e s₁ hc =>
    cases h
    rw [hc] at hclaim
    exact .inl ⟨rfl, hclaim⟩
  · next external s₁ hc =>
    rw [hc] at hclaim
    have hmacs := (nextNicIpConfig_frame (s := s₁) kind (ipOf external)).2.2
    split at h
    · next e s₂ hnext =>
      cases h
      rw [hnext] at hmacs
      exact .inl ⟨rfl, hmacs.trans hclaim⟩
    · next nicIpConfig s₂ hnext =>
      rw [hnext] at hmacs
      rw [hmacs, hclaim] at h
      split at h
      · next nicMac macs hmac =>
        cases h
        rw [hmac]
        exact .inr ⟨rfl, rfl⟩
      · next macs hmac =>
        cases h
        rw [hmac]
        exact .inr ⟨rfl, rfl⟩

/-- What the allocator keeps of the MACs: the iterator fresh for `M`, from the system range. -/
structure MacInv (s : ExternalNetworkingAllocator) (M : List MacAddr) : Prop where
  fresh : s.availableSystemMacs.Fresh M
  system : ∀ mac ∈ s.availableSystemMacs.base, mac ∈ MacAddr.iterSystem

theorem MacInv.forNewZone {ρ : Type} {kind : ZoneKind} {s s' : ExternalNetworkingAllocator}
    {M : List MacAddr}
    {claim : ExternalNetworkingAllocator →
      Except ExternalNetworkingError ρ × ExternalNetworkingAllocator}
    {ipOf : ρ → IpAddr} {r : Except ExternalNetworkingError (NetworkingChoice ρ)}
    (hinv : MacInv s M) (hclaim : (claim s).2.availableSystemMacs = s.availableSystemMacs)
    (h : ExternalNetworkingAllocator.forNewZone kind claim ipOf s = (r, s')) :
    MacInv s' (M ++ (r.toOption.map (·.nicMac)).toList) ∧
      ∀ mac ∈ (r.toOption.map (·.nicMac)).toList, mac ∈ MacAddr.iterSystem := by
  rcases forNewZone_macs hclaim h with ⟨hnone, hs'⟩ | ⟨hyield, hs'⟩
  · rw [hnone, Option.toList_none, List.append_nil]
    exact ⟨⟨hs' ▸ hinv.fresh, hs' ▸ hinv.system⟩, fun _ hmac => absurd hmac List.not_mem_nil⟩
  · obtain ⟨hfresh, -, hsub, hfound⟩ := hinv.fresh.next
    rw [hyield]
    exact ⟨⟨hs' ▸ hfresh, hs' ▸ fun mac hmac => hinv.system mac (hsub mac hmac)⟩,
      fun mac hmac => hinv.system mac (hfound mac hmac)⟩

theorem MacInv.call {c : Call} {s s' : ExternalNetworkingAllocator} {M : List MacAddr}
    {r : Except ExternalNetworkingError Handed} (hinv : MacInv s M) (hc : s.call c = (r, s')) :
    MacInv s' (M ++ macsOf r) ∧ ∀ mac ∈ macsOf r, mac ∈ MacAddr.iterSystem := by
  cases c with
  | nexus =>
    rcases hf : s.forNewNexus with ⟨r₀, s₀⟩
    simp only [ExternalNetworkingAllocator.call, hf, Prod.mk.injEq] at hc
    obtain ⟨rfl, rfl⟩ := hc
    have hmacs : macsOf (r₀.map Handed.nexus) = (r₀.toOption.map (·.nicMac)).toList := by
      cases r₀ <;> rfl
    rw [hmacs]
    exact hinv.forNewZone rfl hf
  | boundaryNtp =>
    rcases hf : s.forNewBoundaryNtp with ⟨r₀, s₀⟩
    simp only [ExternalNetworkingAllocator.call, hf, Prod.mk.injEq] at hc
    obtain ⟨rfl, rfl⟩ := hc
    have hmacs : macsOf (r₀.map Handed.boundaryNtp) = (r₀.toOption.map (·.nicMac)).toList := by
      cases r₀ <;> rfl
    rw [hmacs]
    exact hinv.forNewZone rfl hf
  | externalDns =>
    rcases hf : s.forNewExternalDns with ⟨r₀, s₀⟩
    simp only [ExternalNetworkingAllocator.call, hf, Prod.mk.injEq] at hc
    obtain ⟨rfl, rfl⟩ := hc
    have hmacs : macsOf (r₀.map Handed.externalDns) = (r₀.toOption.map (·.nicMac)).toList := by
      cases r₀ <;> rfl
    rw [hmacs]
    have hclaim : (popFirstExternalDnsIp s).2.availableSystemMacs = s.availableSystemMacs := by
      unfold popFirstExternalDnsIp
      split <;> rfl
    exact hinv.forNewZone hclaim hf

theorem MacInv.run {s : ExternalNetworkingAllocator} {M : List MacAddr} (hinv : MacInv s M)
    (calls : List Call) :
    MacInv (s.run calls).2 (M ++ (s.run calls).1.flatMap macsOf) ∧
      ∀ mac ∈ (s.run calls).1.flatMap macsOf, mac ∈ MacAddr.iterSystem := by
  induction calls generalizing s M with
  | nil => simpa [ExternalNetworkingAllocator.run] using hinv
  | cons c calls ih =>
    rcases hc : s.call c with ⟨r, s₁⟩
    obtain ⟨h₁, hsystem₁⟩ := hinv.call hc
    obtain ⟨hrest, hsystem⟩ := ih h₁
    simp only [ExternalNetworkingAllocator.run, hc, List.flatMap_cons, List.append_assoc,
      List.mem_append] at hrest hsystem ⊢
    refine ⟨hrest, fun mac hmac => ?_⟩
    rcases hmac with hmac | hmac
    · exact hsystem₁ mac hmac
    · exact hsystem mac hmac

/-- `new` starts the MACs with those of the zones in service, in use. -/
theorem macInv_new {zones : List BlueprintZoneType} {policy : ExternalIpPolicy}
    {s : ExternalNetworkingAllocator} (hnew : new zones policy = .ok s) :
    MacInv s (zones.flatMap BlueprintZoneType.macs) := by
  unfold new at hnew
  obtain ⟨u, hfold, hrest⟩ := Except.bind_eq_ok_iff.mp hnew
  dsimp only at hrest
  split at hrest
  · exact absurd hrest Except.throw_ne_ok
  · cases Except.pure_eq_ok_iff.mp hrest
    obtain ⟨hnodup, hused⟩ := UsedResources.foldlM_scanZone_usedMacs List.nodup_nil
      (fun mac => by simp [UsedResources.empty]) hfold
    rw [List.nil_append] at hnodup hused
    exact ⟨⟨MacAddr.nodup_iterSystem, hnodup, fun mac hmac => .inl ((hused mac).mpr hmac)⟩,
      fun _ hmac => hmac⟩

/-- **No MAC twice**: over every sequence of calls after `new`, the MACs handed out are all
    different, none is the MAC of a zone in service, and each is a system MAC past the reserved
    ones. -/
theorem new_run_macs_nodup {zones : List BlueprintZoneType} {policy : ExternalIpPolicy}
    {s : ExternalNetworkingAllocator} (hnew : new zones policy = .ok s) (calls : List Call) :
    (zones.flatMap BlueprintZoneType.macs ++ (s.run calls).1.flatMap macsOf).Nodup ∧
      ∀ mac ∈ (s.run calls).1.flatMap macsOf, mac ∈ MacAddr.iterSystem := by
  obtain ⟨hinv, hsystem⟩ := (macInv_new hnew).run calls
  exact ⟨hinv.fresh.nodup, hsystem⟩

theorem new_run_macs_nodup_nexusZone :
    ∃ s, new [nexusZoneOnNtpNicIp] (ExternalIpPolicyBuilder.build ⟨[twoIpRange], [], ∅⟩) = .ok s ∧
      ([nexusZoneOnNtpNicIp].flatMap BlueprintZoneType.macs ++
          (s.run [.nexus, .boundaryNtp]).1.flatMap macsOf).Nodup ∧
      ∀ mac ∈ (s.run [.nexus, .boundaryNtp]).1.flatMap macsOf, mac ∈ MacAddr.iterSystem :=
  ⟨_, rfl, @new_run_macs_nodup _ (ExternalIpPolicyBuilder.build ⟨[twoIpRange], [], ∅⟩) _ rfl
    [.nexus, .boundaryNtp]⟩

end ExternalNetworkingAllocator

end Omicron.Planning
