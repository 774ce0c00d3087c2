import Omicron.Planning.ExternalIpPolicy
import Omicron.Lib.SortedFinmap
import Omicron.Lib.ConsumingFind

/-!
# Reconfigurator: external IPs for service zones

`ExternalIpAllocator` (`blueprint_editor::allocators::external_networking`) hands out the
external IPs of new Nexus and boundary NTP zones. An IP is either exclusive (Nexus) or shared as
source NAT (boundary NTP) by up to four zones, each with one of the four port ranges of 16384
ports (`SnatPortRange`). The allocator walks the non-DNS IPs of the policy with a consuming
iterator, and keeps the IPs in use of each kind:

* `markIpUsed` -- `mark_ip_used`, for the IPs of the zones already running;
* `claimNextExclusiveIp` -- the next IP of the pool used in neither way;
* `claimNextSnatIp` -- a free port range of an IP already used for SNAT, in key order, or else
  the next IP of the pool used in neither way, with the first range.

The abstract layer is `Inv`: no IP is used both ways, the IPs in use lie in the pool, and what the
iterator no longer yields is in use. `Inv.claimNextExclusiveIp`, `Inv.claimNextSnatIp` and
`Inv.markIpUsed` prove that every call keeps it, and from it:

* `claimNextExclusiveIp_fresh`, `claimNextSnatIp_fresh` -- **a claim hands out what is in use in
  no conflicting way**: an exclusive IP used in neither way, a port range not used on its IP, on
  an IP not used exclusively;
* `claimNextExclusiveIp_error`, `claimNextSnatIp_error` -- **a claim fails only when the pool
  is used up**: every non-DNS IP of the pool is used exclusively or for SNAT, and for SNAT, every
  IP used for SNAT has all four ranges taken.

A `SourceNatConfig` carries the alignment `SourceNatConfig::new` checks, so that the
`unreachable!` of `into_source_nat_config` and of `SnatPortRange::try_from` are proved
unreachable in their definitions.
-/

namespace Omicron.Planning

open Oxql (IpAddr)

/-! ## 1. Source NAT port ranges -/

/-- `NUM_SOURCE_NAT_PORTS`. -/
def numSourceNatPorts : Nat := 2 ^ 14

/-- `checked_sub` then `checked_add(1)` of two `u16` ports: the number of ports of the range. -/
def portCount (firstPort lastPort : Fin (2 ^ 16)) : Option Nat :=
  if firstPort ≤ lastPort then
    if lastPort.val - firstPort.val + 1 < 2 ^ 16 then some (lastPort.val - firstPort.val + 1)
    else none
  else none

theorem lastPort_of_portCount {firstPort lastPort : Fin (2 ^ 16)}
    (h : portCount firstPort lastPort = some numSourceNatPorts) :
    lastPort.val + 1 = firstPort.val + numSourceNatPorts := by
  unfold portCount at h
  split_ifs at h with hle hlt
  have hle' : firstPort.val ≤ lastPort.val := hle
  have hcount := Option.some.inj h
  omega

/-- `SourceNatConfigGeneric`: an IP and a range of ports aligned to `NUM_SOURCE_NAT_PORTS`,
    which `SourceNatConfig::new` guarantees and the field `aligned` carries. -/
structure SourceNatConfig where
  ip : IpAddr
  firstPort : Fin (2 ^ 16)
  lastPort : Fin (2 ^ 16)
  aligned : firstPort.val % numSourceNatPorts = 0 ∧
    lastPort.val + 1 = firstPort.val + numSourceNatPorts
  deriving DecidableEq

/-- `SourceNatConfigError`. -/
inductive SourceNatConfigError where
  | unalignedPortPair (firstPort lastPort : Fin (2 ^ 16))
  deriving DecidableEq, Repr

/-- `SourceNatConfig::new`. -/
def SourceNatConfig.new (ip : IpAddr) (firstPort lastPort : Fin (2 ^ 16)) :
    Except SourceNatConfigError SourceNatConfig :=
  if h : firstPort.val % numSourceNatPorts = 0 ∧
      portCount firstPort lastPort = some numSourceNatPorts then
    .ok ⟨ip, firstPort, lastPort, h.1, lastPort_of_portCount h.2⟩
  else .error (.unalignedPortPair firstPort lastPort)

/-- `port_range_raw`. -/
def SourceNatConfig.portRangeRaw (cfg : SourceNatConfig) : Fin (2 ^ 16) × Fin (2 ^ 16) :=
  (cfg.firstPort, cfg.lastPort)

/-- `SnatPortRange`. -/
inductive SnatPortRange where
  | one
  | two
  | three
  | four
  deriving DecidableEq, Repr

namespace SnatPortRange

/-- `SnatPortRange::iter()`, in declaration order. -/
def iter : List SnatPortRange := [.one, .two, .three, .four]

theorem mem_iter (r : SnatPortRange) : r ∈ iter := by
  cases r <;> decide

/-- The first port of a range, as `into_source_nat_config` computes it. -/
def first : SnatPortRange → Fin (2 ^ 16)
  | .one => ⟨0, by decide⟩
  | .two => ⟨numSourceNatPorts, by decide⟩
  | .three => ⟨2 * numSourceNatPorts, by decide⟩
  | .four => ⟨3 * numSourceNatPorts, by decide⟩

/-- `first + (NUM_SOURCE_NAT_PORTS - 1)`, which the parentheses keep below `2 ^ 16`. -/
def last (r : SnatPortRange) : Fin (2 ^ 16) :=
  ⟨r.first.val + (numSourceNatPorts - 1), by cases r <;> decide⟩

theorem new_eq_ok (r : SnatPortRange) (ip : IpAddr) :
    ∃ cfg, SourceNatConfig.new ip r.first r.last = .ok cfg ∧ cfg.ip = ip ∧ cfg.firstPort = r.first := by
  have h : r.first.val % numSourceNatPorts = 0 ∧
      portCount r.first r.last = some numSourceNatPorts := by
    cases r <;> decide
  exact ⟨_, dif_pos h, rfl, rfl⟩

/-- `into_source_nat_config`. Its `unreachable!` arm is the error of `SourceNatConfig::new`,
    which `new_eq_ok` rules out. -/
def intoSourceNatConfig (self : SnatPortRange) (ip : IpAddr) : SourceNatConfig :=
  match h : SourceNatConfig.new ip self.first self.last with
  | .ok cfg => cfg
  | .error _ => absurd h (by
      obtain ⟨cfg, hcfg, -⟩ := new_eq_ok self ip
      rw [hcfg]
      intro hne
      cases hne)

theorem intoSourceNatConfig_ip (r : SnatPortRange) (ip : IpAddr) :
    (r.intoSourceNatConfig ip).ip = ip := by
  obtain ⟨cfg, hcfg, hip, -⟩ := new_eq_ok r ip
  unfold intoSourceNatConfig
  split
  · rename_i cfg' hcfg'
    rw [hcfg] at hcfg'
    cases hcfg'
    exact hip
  · rename_i e he
    rw [hcfg] at he
    cases he

theorem intoSourceNatConfig_firstPort (r : SnatPortRange) (ip : IpAddr) :
    (r.intoSourceNatConfig ip).firstPort = r.first := by
  obtain ⟨cfg, hcfg, -, hfirst⟩ := new_eq_ok r ip
  unfold intoSourceNatConfig
  split
  · rename_i cfg' hcfg'
    rw [hcfg] at hcfg'
    cases hcfg'
    exact hfirst
  · rename_i e he
    rw [hcfg] at he
    cases he

/-- The range of index `first / NUM_SOURCE_NAT_PORTS`. An index past three is the
    `unreachable!` arm of `try_from`, which no `u16` port reaches (`ofIndex_first`). -/
def ofIndex : Nat → SnatPortRange
  | 0 => .one
  | 1 => .two
  | 2 => .three
  | _ => .four

/-- `SnatPortRange::try_from((first, last))`. -/
def tryFrom (firstLast : Fin (2 ^ 16) × Fin (2 ^ 16)) : Except Unit SnatPortRange :=
  let (first, last) := firstLast
  if first.val % numSourceNatPorts ≠ 0 ∨ first.val + numSourceNatPorts - 1 ≠ last.val then
    .error ()
  else .ok (ofIndex (first.val / numSourceNatPorts))

/-- An aligned `u16` port is the first port of the range of its index. -/
theorem ofIndex_first {port : Fin (2 ^ 16)} (hmod : port.val % numSourceNatPorts = 0) :
    (ofIndex (port.val / numSourceNatPorts)).first = port := by
  have hlt := port.isLt
  unfold numSourceNatPorts at hmod ⊢
  apply Fin.ext
  rcases (show port.val / 2 ^ 14 = 0 ∨ port.val / 2 ^ 14 = 1 ∨ port.val / 2 ^ 14 = 2 ∨
      port.val / 2 ^ 14 = 3 by omega) with h | h | h | h <;>
    simp only [h, ofIndex, first, numSourceNatPorts] <;> omega

theorem ofIndex_first_div (r : SnatPortRange) : ofIndex (r.first.val / numSourceNatPorts) = r := by
  cases r <;> rfl

end SnatPortRange

namespace SourceNatConfig

/-- The range of an aligned configuration, of index its first port over
    `NUM_SOURCE_NAT_PORTS`. -/
def portRange (cfg : SourceNatConfig) : SnatPortRange :=
  SnatPortRange.ofIndex (cfg.firstPort.val / numSourceNatPorts)

theorem first_portRange (cfg : SourceNatConfig) : cfg.portRange.first = cfg.firstPort :=
  SnatPortRange.ofIndex_first cfg.aligned.1

/-- **A configuration is its IP and its port range**: the alignment fixes the last port. -/
theorem ext_portRange {c d : SourceNatConfig} (hip : c.ip = d.ip)
    (hrange : c.portRange = d.portRange) : c = d := by
  have hfirst : c.firstPort = d.firstPort := by
    rw [← first_portRange c, ← first_portRange d, hrange]
  have hlast : c.lastPort = d.lastPort := by
    apply Fin.ext
    have hc := c.aligned.2
    have hd := d.aligned.2
    rw [hfirst] at hc
    omega
  cases c
  cases d
  simp only at hip hfirst hlast
  subst hip hfirst hlast
  rfl

/-- `try_from` of an aligned configuration's raw range is its range. -/
theorem tryFrom_portRangeRaw (cfg : SourceNatConfig) :
    SnatPortRange.tryFrom cfg.portRangeRaw = .ok cfg.portRange := by
  obtain ⟨hmod, hlast⟩ := cfg.aligned
  have hcheck : ¬(cfg.firstPort.val % numSourceNatPorts ≠ 0 ∨
      cfg.firstPort.val + numSourceNatPorts - 1 ≠ cfg.lastPort.val) := by
    unfold numSourceNatPorts at hmod hlast ⊢
    omega
  simp only [SnatPortRange.tryFrom, portRangeRaw, portRange]
  exact if_neg hcheck

end SourceNatConfig

theorem SnatPortRange.portRange_intoSourceNatConfig (r : SnatPortRange) (ip : IpAddr) :
    (r.intoSourceNatConfig ip).portRange = r := by
  rw [SourceNatConfig.portRange, intoSourceNatConfig_firstPort, ofIndex_first_div]

/-! ## 2. Errors -/

/-- `Ipv4Net` and `Ipv6Net` (of `oxnet`), over the addresses `Fin (2 ^ bits)`: an address and the
    width of the prefix. -/
structure PrefixNet (bits : Nat) where
  addr : Fin (2 ^ bits)
  width : Nat
  deriving DecidableEq, Repr

/-- `Ipv4Net`. -/
abbrev Ipv4Net := PrefixNet 32

/-- `Ipv6Net`. -/
abbrev Ipv6Net := PrefixNet 128

/-- `IpNet`. -/
inductive IpNet where
  | v4 (net : Ipv4Net)
  | v6 (net : Ipv6Net)
  deriving DecidableEq, Repr

/-- `PrivateIpConfigError`. -/
inductive PrivateIpConfigError where
  | ipNotInSubnet (subnet : IpNet) (ip : IpAddr)
  | invalidIpv4NetworkPrefix (width : Nat)
  | invalidIpv6NetworkPrefix (width : Nat)
  deriving DecidableEq, Repr

/-- `ZoneKind`, of the zones that have external networking: the only kinds an error here
    names. -/
inductive ZoneKind where
  | boundaryNtp
  | nexus
  | externalDns
  deriving DecidableEq, Repr

/-- `ExternalNetworkingError`. -/
inductive ExternalNetworkingError where
  | noExternalDnsIpAvailable
  | noExternalServiceIpAvailable
  | noSystemMacAddressAvailable
  | exhaustedOpteIps (kind : ZoneKind)
  | addDuplicateExternalDnsIp (ip : IpAddr)
  | invalidPrivateIpConfig (e : PrivateIpConfigError)
  deriving DecidableEq, Repr

/-! ## 3. The allocator -/

/-- `ExternalIpAllocator`: what the pool iterator has still to yield, and the IPs in use,
    exclusively or for SNAT with the port ranges in use on each. -/
structure ExternalIpAllocator where
  serviceIpPoolIps : List IpAddr
  usedExclusiveIps : Finset IpAddr
  usedSnatIps : Finmap fun _ : IpAddr => Finset SnatPortRange

/-- `OmicronZoneExternalIp`, without its id. -/
inductive OmicronZoneExternalIp where
  | floating (ip : IpAddr)
  | snat (snatCfg : SourceNatConfig)
  deriving DecidableEq

/-- `OmicronZoneExternalIp::ip`. -/
def OmicronZoneExternalIp.ip : OmicronZoneExternalIp → IpAddr
  | .floating ip => ip
  | .snat snatCfg => snatCfg.ip

/-- `ExternalIpAllocatorError`. The `anyhow` error of an invalid range is left out: no range of
    an aligned configuration is invalid (`tryFrom_portRangeRaw`). -/
inductive ExternalIpAllocatorError where
  | duplicateExternalIp (ip : OmicronZoneExternalIp)
  | invalidSnatPortRange
  deriving DecidableEq

namespace ExternalIpAllocator

/-- `ExternalIpAllocator::new`. -/
def new (policy : ExternalIpPolicy) : ExternalIpAllocator :=
  ⟨policy.intoNonExternalDnsIps, ∅, ∅⟩

/-- The port ranges in use on `ip`: its entry, or the empty set `or_default` makes. -/
def usedRanges (a : ExternalIpAllocator) (ip : IpAddr) : Finset SnatPortRange :=
  (a.usedSnatIps.lookup ip).getD ∅

/-- `mark_ip_used`. -/
def markIpUsed (a : ExternalIpAllocator) (externalIp : OmicronZoneExternalIp) :
    Except ExternalIpAllocatorError ExternalIpAllocator :=
  match externalIp with
  | .floating ip =>
    if ip ∈ a.usedSnatIps ∨ ip ∈ a.usedExclusiveIps then .error (.duplicateExternalIp externalIp)
    else .ok { a with usedExclusiveIps := insert ip a.usedExclusiveIps }
  | .snat snatCfg =>
    match SnatPortRange.tryFrom snatCfg.portRangeRaw with
    | .error () => .error .invalidSnatPortRange
    | .ok portRange =>
      if snatCfg.ip ∈ a.usedExclusiveIps ∨ portRange ∈ a.usedRanges snatCfg.ip then
        .error (.duplicateExternalIp externalIp)
      else .ok { a with
        usedSnatIps := a.usedSnatIps.insert snatCfg.ip (insert portRange (a.usedRanges snatCfg.ip)) }

/-- The test of both loops over the pool: the IP is used neither for SNAT nor exclusively. -/
def isUnused (a : ExternalIpAllocator) (ip : IpAddr) : Bool :=
  ip ∉ a.usedSnatIps && ip ∉ a.usedExclusiveIps

/-- `claim_next_exclusive_ip`. The loop consumes the pool iterator up to the IP it claims. -/
def claimNextExclusiveIp (a : ExternalIpAllocator) :
    Except ExternalNetworkingError IpAddr × ExternalIpAllocator :=
  match a.serviceIpPoolIps.findConsume a.isUnused with
  | (some ip, rest) =>
    (.ok ip, { a with serviceIpPoolIps := rest, usedExclusiveIps := insert ip a.usedExclusiveIps })
  | (none, rest) => (.error .noExternalServiceIpAvailable, { a with serviceIpPoolIps := rest })

/-- The inner loop of `claim_next_snat_ip`: the first range of `SnatPortRange::iter()` that the
    set does not hold. -/
def firstFreeRange (used : Finset SnatPortRange) : Option SnatPortRange :=
  SnatPortRange.iter.find? (· ∉ used)

/-- The first loop of `claim_next_snat_ip`: the IPs in use for SNAT in increasing order, and the
    first of them with a range free, with its ranges. -/
def reusableSnatIp (usedSnatIps : Finmap fun _ : IpAddr => Finset SnatPortRange) :
    Option (IpAddr × Finset SnatPortRange × SnatPortRange) :=
  usedSnatIps.sortedEntries.findSome? fun (ip, used) =>
    (firstFreeRange used).map fun portRange => (ip, used, portRange)

/-- `claim_next_snat_ip`: a free range of an IP already in use for SNAT; else the next IP of the
    pool used in neither way, with the first range. -/
def claimNextSnatIp (a : ExternalIpAllocator) :
    Except ExternalNetworkingError SourceNatConfig × ExternalIpAllocator :=
  match reusableSnatIp a.usedSnatIps with
  | some (ip, used, portRange) =>
    (.ok (portRange.intoSourceNatConfig ip),
      { a with usedSnatIps := a.usedSnatIps.insert ip (insert portRange used) })
  | none =>
    match a.serviceIpPoolIps.findConsume a.isUnused with
    | (some ip, rest) =>
      (.ok (SnatPortRange.one.intoSourceNatConfig ip),
        { a with serviceIpPoolIps := rest, usedSnatIps := a.usedSnatIps.insert ip {.one} })
    | (none, rest) => (.error .noExternalServiceIpAvailable, { a with serviceIpPoolIps := rest })

end ExternalIpAllocator

/-! ## 4. What a call does -/

namespace ExternalIpAllocator

variable {a a' : ExternalIpAllocator}

theorem isUnused_eq_false {ip : IpAddr} (h : a.isUnused ip = false) :
    ip ∈ a.usedSnatIps ∨ ip ∈ a.usedExclusiveIps := by
  simp only [isUnused, Bool.and_eq_false_iff, decide_eq_false_iff_not, not_not] at h
  exact h

theorem isUnused_eq_true {ip : IpAddr} (h : a.isUnused ip = true) :
    ip ∉ a.usedSnatIps ∧ ip ∉ a.usedExclusiveIps := by
  simpa [isUnused] using h

@[simp] theorem usedRanges_insert_self (ip : IpAddr) (used : Finset SnatPortRange) :
    ({ a with usedSnatIps := a.usedSnatIps.insert ip used } : ExternalIpAllocator).usedRanges ip =
      used := by
  simp [usedRanges]

theorem usedRanges_insert_of_ne {ip ip' : IpAddr} (used : Finset SnatPortRange) (hne : ip' ≠ ip) :
    ({ a with usedSnatIps := a.usedSnatIps.insert ip used } : ExternalIpAllocator).usedRanges ip' =
      a.usedRanges ip' := by
  simp [usedRanges, Finmap.lookup_insert_of_ne _ hne]

theorem usedRanges_of_lookup {ip : IpAddr} {used : Finset SnatPortRange}
    (h : a.usedSnatIps.lookup ip = some used) : a.usedRanges ip = used := by
  simp [usedRanges, h]

theorem usedRanges_eq_empty {ip : IpAddr} (h : ip ∉ a.usedSnatIps) : a.usedRanges ip = ∅ := by
  simp [usedRanges, Finmap.lookup_eq_none.mpr h]

theorem firstFreeRange_eq_some {used : Finset SnatPortRange} {r : SnatPortRange}
    (h : firstFreeRange used = some r) : r ∉ used := by
  simpa using List.find?_some h

theorem firstFreeRange_eq_none {used : Finset SnatPortRange} (h : firstFreeRange used = none) :
    ∀ r, r ∈ used := by
  intro r
  simpa using List.find?_eq_none.mp h r (SnatPortRange.mem_iter r)

theorem reusableSnatIp_eq_some {m : Finmap fun _ : IpAddr => Finset SnatPortRange} {ip : IpAddr}
    {used : Finset SnatPortRange} {r : SnatPortRange} (h : reusableSnatIp m = some (ip, used, r)) :
    m.lookup ip = some used ∧ r ∉ used := by
  obtain ⟨⟨ip', used'⟩, hmem, hfound⟩ := List.exists_of_findSome?_eq_some h
  obtain ⟨r', hr', heq⟩ := Option.map_eq_some_iff.mp hfound
  simp only [Prod.mk.injEq] at heq
  obtain ⟨rfl, rfl, rfl⟩ := heq
  -- `sortedEntries` looks up with the order's decidable equality
  refine ⟨?_, firstFreeRange_eq_some hr'⟩
  convert Finmap.mem_sortedEntries.mp hmem

/-- With no IP to reuse, every IP in use for SNAT has its four ranges taken. -/
theorem reusableSnatIp_eq_none {m : Finmap fun _ : IpAddr => Finset SnatPortRange}
    (h : reusableSnatIp m = none) : ∀ ip used, m.lookup ip = some used → ∀ r, r ∈ used := by
  intro ip used hlookup r
  have hmem : (ip, used) ∈ m.sortedEntries := Finmap.mem_sortedEntries.mpr (by convert hlookup)
  have hnone := List.findSome?_eq_none_iff.mp h (ip, used) hmem
  exact firstFreeRange_eq_none (Option.map_eq_none_iff.mp hnone) r

/-- **Everything `claim_next_exclusive_ip` can do.** -/
theorem claimNextExclusiveIp_cases {r : Except ExternalNetworkingError IpAddr}
    (h : a.claimNextExclusiveIp = (r, a')) :
    a'.usedSnatIps = a.usedSnatIps ∧
      ((∃ ip, r = .ok ip ∧
          a.serviceIpPoolIps.findConsume a.isUnused = (some ip, a'.serviceIpPoolIps) ∧
          a'.usedExclusiveIps = insert ip a.usedExclusiveIps) ∨
        (r = .error .noExternalServiceIpAvailable ∧
          a.serviceIpPoolIps.findConsume a.isUnused = (none, a'.serviceIpPoolIps) ∧
          a'.usedExclusiveIps = a.usedExclusiveIps)) := by
  unfold claimNextExclusiveIp at h
  split at h
  · rename_i ip rest hfind
    cases h
    exact ⟨rfl, .inl ⟨ip, rfl, hfind, rfl⟩⟩
  · rename_i rest hfind
    cases h
    exact ⟨rfl, .inr ⟨rfl, hfind, rfl⟩⟩

/-- **Everything `claim_next_snat_ip` can do**: reuse an IP, take one from the pool, or fail. -/
theorem claimNextSnatIp_cases {r : Except ExternalNetworkingError SourceNatConfig}
    (h : a.claimNextSnatIp = (r, a')) :
    (∃ ip used portRange, reusableSnatIp a.usedSnatIps = some (ip, used, portRange) ∧
        r = .ok (portRange.intoSourceNatConfig ip) ∧
        a' = { a with usedSnatIps := a.usedSnatIps.insert ip (insert portRange used) }) ∨
      (reusableSnatIp a.usedSnatIps = none ∧ ∃ ip,
        a.serviceIpPoolIps.findConsume a.isUnused = (some ip, a'.serviceIpPoolIps) ∧
        r = .ok (SnatPortRange.one.intoSourceNatConfig ip) ∧
        a'.usedExclusiveIps = a.usedExclusiveIps ∧
        a'.usedSnatIps = a.usedSnatIps.insert ip {.one}) ∨
      (reusableSnatIp a.usedSnatIps = none ∧
        a.serviceIpPoolIps.findConsume a.isUnused = (none, a'.serviceIpPoolIps) ∧
        r = .error .noExternalServiceIpAvailable ∧
        a'.usedExclusiveIps = a.usedExclusiveIps ∧ a'.usedSnatIps = a.usedSnatIps) := by
  unfold claimNextSnatIp at h
  split at h
  · rename_i ip used portRange hreuse
    cases h
    exact .inl ⟨ip, used, portRange, hreuse, rfl, rfl⟩
  · rename_i hreuse
    split at h
    · rename_i ip rest hfind
      cases h
      exact .inr (.inl ⟨hreuse, ip, hfind, rfl, rfl, rfl⟩)
    · rename_i rest hfind
      cases h
      exact .inr (.inr ⟨hreuse, hfind, rfl, rfl, rfl⟩)

end ExternalIpAllocator

/-! ## 5. The invariant -/

namespace ExternalIpAllocator

variable {a a' : ExternalIpAllocator}

/-- What every call keeps, for the non-DNS IPs `pool` of the policy: no IP is used both ways,
    the iterator and the SNAT IPs stay in the pool, and each IP of the pool is still to come or
    in use. -/
structure Inv (pool : List IpAddr) (a : ExternalIpAllocator) : Prop where
  disjoint : ∀ ip ∈ a.usedExclusiveIps, ip ∉ a.usedSnatIps
  remaining : ∀ ip ∈ a.serviceIpPoolIps, ip ∈ pool
  snat_mem : ∀ ip ∈ a.usedSnatIps, ip ∈ pool
  consumed : ∀ ip ∈ pool, ip ∈ a.serviceIpPoolIps ∨ ip ∈ a.usedExclusiveIps ∨ ip ∈ a.usedSnatIps

/-- The uses only grow. -/
structure Grows (a a' : ExternalIpAllocator) : Prop where
  exclusive : ∀ ip ∈ a.usedExclusiveIps, ip ∈ a'.usedExclusiveIps
  snat : ∀ ip ∈ a.usedSnatIps, ip ∈ a'.usedSnatIps
  ranges : ∀ ip, a.usedRanges ip ⊆ a'.usedRanges ip

theorem Grows.refl (a : ExternalIpAllocator) : Grows a a :=
  ⟨fun _ h => h, fun _ h => h, fun _ => subset_rfl⟩

theorem Grows.trans {a'' : ExternalIpAllocator} (h : Grows a a') (h' : Grows a' a'') :
    Grows a a'' :=
  ⟨fun ip hip => h'.exclusive ip (h.exclusive ip hip), fun ip hip => h'.snat ip (h.snat ip hip),
    fun ip => (h.ranges ip).trans (h'.ranges ip)⟩

theorem Inv.new (policy : ExternalIpPolicy) : Inv policy.intoNonExternalDnsIps (new policy) where
  disjoint := by simp [ExternalIpAllocator.new]
  remaining := fun _ h => h
  snat_mem := fun _ hip => absurd hip (Finmap.notMem_empty)
  consumed := fun _ h => .inl h

/-- A search of the pool loses no IP of it: each is still to come, in use, or the one found. -/
theorem mem_findConsume_isUnused {ip : IpAddr} (h : ip ∈ a.serviceIpPoolIps) :
    ip ∈ (a.serviceIpPoolIps.findConsume a.isUnused).2 ∨ ip ∈ a.usedExclusiveIps ∨
      ip ∈ a.usedSnatIps ∨ (a.serviceIpPoolIps.findConsume a.isUnused).1 = some ip := by
  rcases List.mem_findConsume (p := a.isUnused) h with hleft | hused | hfound
  · exact .inl hleft
  · rcases isUnused_eq_false hused with hs | he
    · exact .inr (.inr (.inl hs))
    · exact .inr (.inl he)
  · exact .inr (.inr (.inr hfound))

/-- Inserting into the map a superset of an IP's ranges keeps every IP's ranges. -/
theorem usedRanges_subset_of_insert {ip : IpAddr} {used : Finset SnatPortRange}
    (hsnat : a'.usedSnatIps = a.usedSnatIps.insert ip used) (hused : a.usedRanges ip ⊆ used)
    (ip' : IpAddr) : a.usedRanges ip' ⊆ a'.usedRanges ip' := by
  by_cases hip : ip' = ip
  · subst hip
    simpa [usedRanges, hsnat] using hused
  · simp [usedRanges, hsnat, Finmap.lookup_insert_of_ne _ hip]

theorem claimNextExclusiveIp_grows {r : Except ExternalNetworkingError IpAddr}
    (h : a.claimNextExclusiveIp = (r, a')) : Grows a a' := by
  obtain ⟨hsnat, ⟨ip, -, -, hexcl⟩ | ⟨-, -, hexcl⟩⟩ := claimNextExclusiveIp_cases h
  all_goals
    refine ⟨fun x hx => by simp [hexcl, hx], fun x hx => by rw [hsnat]; exact hx, fun x => ?_⟩
    simp only [usedRanges, hsnat, subset_rfl]

theorem Inv.claimNextExclusiveIp {pool : List IpAddr} {r : Except ExternalNetworkingError IpAddr}
    (hinv : Inv pool a) (h : a.claimNextExclusiveIp = (r, a')) : Inv pool a' := by
  obtain ⟨hsnat, hcase⟩ := claimNextExclusiveIp_cases h
  have hleft : ∀ x ∈ a'.serviceIpPoolIps, x ∈ a.serviceIpPoolIps := by
    rcases hcase with ⟨ip, -, hfind, -⟩ | ⟨-, hfind, -⟩ <;>
      exact fun x hx => List.mem_of_mem_findConsume (by rw [hfind]; exact hx)
  refine ⟨?_, fun x hx => hinv.remaining x (hleft x hx), fun x hx => ?_, fun x hx => ?_⟩
  · -- the IP claimed was used in neither way
    intro x hx
    rw [hsnat]
    rcases hcase with ⟨ip, -, hfind, hexcl⟩ | ⟨-, -, hexcl⟩
    · rw [hexcl] at hx
      rcases Finset.mem_insert.mp hx with rfl | hx
      · exact (isUnused_eq_true (List.mem_of_findConsume_eq_some hfind).2).1
      · exact hinv.disjoint x hx
    · rw [hexcl] at hx
      exact hinv.disjoint x hx
  · rw [hsnat] at hx
    exact hinv.snat_mem x hx
  · have hgrows := claimNextExclusiveIp_grows h
    rcases hinv.consumed x hx with hrem | hexcl | hsnat'
    · rcases mem_findConsume_isUnused hrem with hleft' | hexcl | hsnat' | hfound
      · rcases hcase with ⟨ip, -, hfind, -⟩ | ⟨-, hfind, -⟩ <;>
          · rw [hfind] at hleft'
            exact .inl hleft'
      · exact .inr (.inl (hgrows.exclusive x hexcl))
      · exact .inr (.inr (hgrows.snat x hsnat'))
      · rcases hcase with ⟨ip, -, hfind, hexcl⟩ | ⟨-, hfind, -⟩
        · rw [hfind, Option.some.injEq] at hfound
          subst hfound
          exact .inr (.inl (by simp [hexcl]))
        · rw [hfind] at hfound
          cases hfound
    · exact .inr (.inl (hgrows.exclusive x hexcl))
    · exact .inr (.inr (hgrows.snat x hsnat'))

theorem claimNextSnatIp_grows {r : Except ExternalNetworkingError SourceNatConfig}
    (h : a.claimNextSnatIp = (r, a')) : Grows a a' := by
  rcases claimNextSnatIp_cases h with
    ⟨ip, used, portRange, hreuse, -, rfl⟩ | ⟨-, ip, hfind, -, hexcl, hsnat⟩ | ⟨-, -, -, hexcl, hsnat⟩
  · -- a free range of an IP already there
    have hused : a.usedRanges ip ⊆ insert portRange used := by
      rw [usedRanges_of_lookup (reusableSnatIp_eq_some hreuse).1]
      exact Finset.subset_insert _ _
    exact ⟨fun _ hx => hx, fun x hx => Finmap.mem_insert.mpr (.inr hx),
      usedRanges_subset_of_insert rfl hused⟩
  · -- a new IP, whose ranges were empty
    have hunused := isUnused_eq_true (List.mem_of_findConsume_eq_some hfind).2
    have hused : a.usedRanges ip ⊆ {SnatPortRange.one} := by
      rw [usedRanges_eq_empty hunused.1]
      exact Finset.empty_subset _
    exact ⟨fun x hx => by rw [hexcl]; exact hx,
      fun x hx => by rw [hsnat]; exact Finmap.mem_insert.mpr (.inr hx),
      usedRanges_subset_of_insert hsnat hused⟩
  · exact ⟨fun x hx => by rw [hexcl]; exact hx, fun x hx => by rw [hsnat]; exact hx,
      fun x => by simp only [usedRanges, hsnat, subset_rfl]⟩

theorem Inv.claimNextSnatIp {pool : List IpAddr} {r : Except ExternalNetworkingError SourceNatConfig}
    (hinv : Inv pool a) (h : a.claimNextSnatIp = (r, a')) : Inv pool a' := by
  have hgrows := claimNextSnatIp_grows h
  rcases claimNextSnatIp_cases h with
    ⟨ip, used, portRange, hreuse, -, rfl⟩ | ⟨-, ip, hfind, -, hexcl, hsnat⟩ | ⟨-, hfind, -, hexcl, hsnat⟩
  · -- the reused IP is already a key: the keys do not change
    have hkey : ip ∈ a.usedSnatIps := Finmap.mem_of_lookup_eq_some (reusableSnatIp_eq_some hreuse).1
    have hkeys : ∀ x, x ∈ a.usedSnatIps.insert ip (insert portRange used) → x ∈ a.usedSnatIps := by
      intro x hx
      rcases Finmap.mem_insert.mp hx with rfl | hx
      · exact hkey
      · exact hx
    exact ⟨fun x hx hs => hinv.disjoint x hx (hkeys x hs), hinv.remaining,
      fun x hx => hinv.snat_mem x (hkeys x hx),
      fun x hx => (hinv.consumed x hx).imp_right (Or.imp_right (hgrows.snat x))⟩
  · -- an IP of the pool used in neither way
    obtain ⟨hmem, hunused⟩ := List.mem_of_findConsume_eq_some hfind
    have hunused := isUnused_eq_true hunused
    refine ⟨fun x hx hs => ?_, fun x hx => ?_, fun x hx => ?_, fun x hx => ?_⟩
    · rw [hexcl] at hx
      rw [hsnat] at hs
      rcases Finmap.mem_insert.mp hs with rfl | hs
      · exact hunused.2 hx
      · exact hinv.disjoint x hx hs
    · exact hinv.remaining x (List.mem_of_mem_findConsume (by rw [hfind]; exact hx))
    · rw [hsnat] at hx
      rcases Finmap.mem_insert.mp hx with rfl | hx
      · exact hinv.remaining x hmem
      · exact hinv.snat_mem x hx
    · rcases hinv.consumed x hx with hrem | hexcl' | hsnat'
      · rcases mem_findConsume_isUnused hrem with hleft | hexcl' | hsnat' | hfound
        · rw [hfind] at hleft
          exact .inl hleft
        · exact .inr (.inl (hgrows.exclusive x hexcl'))
        · exact .inr (.inr (hgrows.snat x hsnat'))
        · rw [hfind, Option.some.injEq] at hfound
          subst hfound
          exact .inr (.inr (by rw [hsnat]; exact Finmap.mem_insert.mpr (.inl rfl)))
      · exact .inr (.inl (hgrows.exclusive x hexcl'))
      · exact .inr (.inr (hgrows.snat x hsnat'))
  · -- the pool is used up, and so is the iterator
    refine ⟨fun x hx hs => ?_, fun x hx => ?_, fun x hx => ?_, fun x hx => ?_⟩
    · rw [hexcl] at hx
      rw [hsnat] at hs
      exact hinv.disjoint x hx hs
    · exact hinv.remaining x (List.mem_of_mem_findConsume (by rw [hfind]; exact hx))
    · rw [hsnat] at hx
      exact hinv.snat_mem x hx
    · rcases hinv.consumed x hx with hrem | hexcl' | hsnat'
      · rcases isUnused_eq_false ((List.findConsume_eq_none hfind).2 x hrem) with hs | he
        · exact .inr (.inr (by rw [hsnat]; exact hs))
        · exact .inr (.inl (by rw [hexcl]; exact he))
      · exact .inr (.inl (hgrows.exclusive x hexcl'))
      · exact .inr (.inr (hgrows.snat x hsnat'))

/-- **Everything a successful `mark_ip_used` does**: a floating IP used in neither way becomes
    exclusive; a SNAT configuration whose IP is not exclusive adds its range, not yet in use. -/
theorem markIpUsed_cases {e : OmicronZoneExternalIp} (h : a.markIpUsed e = .ok a') :
    (∃ ip, e = .floating ip ∧ ip ∉ a.usedSnatIps ∧ ip ∉ a.usedExclusiveIps ∧
        a' = { a with usedExclusiveIps := insert ip a.usedExclusiveIps }) ∨
      (∃ cfg : SourceNatConfig, e = .snat cfg ∧ cfg.ip ∉ a.usedExclusiveIps ∧
        cfg.portRange ∉ a.usedRanges cfg.ip ∧
        a' = { a with usedSnatIps :=
          a.usedSnatIps.insert cfg.ip (insert cfg.portRange (a.usedRanges cfg.ip)) }) := by
  cases e with
  | floating ip =>
    unfold markIpUsed at h
    dsimp only at h
    split_ifs at h with hused
    cases h
    exact .inl ⟨ip, rfl, fun hs => hused (.inl hs), fun he => hused (.inr he), rfl⟩
  | snat cfg =>
    unfold markIpUsed at h
    dsimp only at h
    rw [SourceNatConfig.tryFrom_portRangeRaw] at h
    dsimp only at h
    split_ifs at h with hused
    cases h
    exact .inr ⟨cfg, rfl, fun he => hused (.inl he), fun hr => hused (.inr hr), rfl⟩

theorem markIpUsed_grows {e : OmicronZoneExternalIp} (h : a.markIpUsed e = .ok a') :
    Grows a a' := by
  rcases markIpUsed_cases h with ⟨ip, -, -, -, -, rfl⟩ | ⟨cfg, -, -, -, rfl⟩
  · exact ⟨fun x hx => Finset.mem_insert_of_mem hx, fun _ hx => hx, fun _ => subset_rfl⟩
  · exact ⟨fun _ hx => hx, fun x hx => Finmap.mem_insert.mpr (.inr hx),
      usedRanges_subset_of_insert rfl (Finset.subset_insert _ _)⟩

/-- `mark_ip_used` keeps the invariant for an IP that lies in the pool if it is for SNAT. -/
theorem Inv.markIpUsed {pool : List IpAddr} {e : OmicronZoneExternalIp} (hinv : Inv pool a)
    (hpool : ∀ cfg, e = .snat cfg → cfg.ip ∈ pool) (h : a.markIpUsed e = .ok a') : Inv pool a' := by
  have hgrows := markIpUsed_grows h
  have hconsumed : ∀ x ∈ pool, x ∈ a.serviceIpPoolIps ∨ x ∈ a'.usedExclusiveIps ∨
      x ∈ a'.usedSnatIps := fun x hx =>
    (hinv.consumed x hx).imp_right (Or.imp (hgrows.exclusive x) (hgrows.snat x))
  rcases markIpUsed_cases h with ⟨ip, -, hsnat, -, rfl⟩ | ⟨cfg, he, hexcl, -, rfl⟩
  · refine ⟨fun x hx hs => ?_, hinv.remaining, hinv.snat_mem, hconsumed⟩
    rcases Finset.mem_insert.mp hx with rfl | hx
    · exact hsnat hs
    · exact hinv.disjoint x hx hs
  · refine ⟨fun x hx hs => ?_, hinv.remaining, fun x hx => ?_, hconsumed⟩
    · rcases Finmap.mem_insert.mp hs with rfl | hs
      · exact hexcl hx
      · exact hinv.disjoint x hx hs
    · rcases Finmap.mem_insert.mp hx with rfl | hx
      · exact hpool cfg he
      · exact hinv.snat_mem x hx

/-! ## 6. What a claim hands out -/

variable {pool : List IpAddr}

/-- **An exclusive claim hands out an IP of the pool used in neither way**, and marks it. -/
theorem claimNextExclusiveIp_fresh {ip : IpAddr} (hinv : Inv pool a)
    (h : a.claimNextExclusiveIp = (.ok ip, a')) :
    ip ∈ pool ∧ ip ∉ a.usedExclusiveIps ∧ ip ∉ a.usedSnatIps ∧ ip ∈ a'.usedExclusiveIps ∧
      a'.usedSnatIps = a.usedSnatIps := by
  obtain ⟨hsnat, ⟨ip', hip, hfind, hexcl⟩ | ⟨hr, -⟩⟩ := claimNextExclusiveIp_cases h
  · cases hip
    obtain ⟨hmem, hunused⟩ := List.mem_of_findConsume_eq_some hfind
    have hunused := isUnused_eq_true hunused
    exact ⟨hinv.remaining _ hmem, hunused.2, hunused.1, by simp [hexcl], hsnat⟩
  · cases hr

/-- **A SNAT claim hands out a range not yet in use, on an IP of the pool not used
    exclusively**, and marks it. -/
theorem claimNextSnatIp_fresh {cfg : SourceNatConfig} (hinv : Inv pool a)
    (h : a.claimNextSnatIp = (.ok cfg, a')) :
    cfg.ip ∈ pool ∧ cfg.ip ∉ a.usedExclusiveIps ∧ cfg.portRange ∉ a.usedRanges cfg.ip ∧
      cfg.portRange ∈ a'.usedRanges cfg.ip ∧ a'.usedExclusiveIps = a.usedExclusiveIps := by
  rcases claimNextSnatIp_cases h with
    ⟨ip, used, portRange, hreuse, hr, rfl⟩ | ⟨-, ip, hfind, hr, hexcl, hsnat⟩ | ⟨-, -, hr, -⟩
  · cases hr
    obtain ⟨hlookup, hfree⟩ := reusableSnatIp_eq_some hreuse
    have hkey : ip ∈ a.usedSnatIps := Finmap.mem_of_lookup_eq_some hlookup
    rw [SnatPortRange.intoSourceNatConfig_ip, SnatPortRange.portRange_intoSourceNatConfig]
    refine ⟨hinv.snat_mem ip hkey, fun he => hinv.disjoint ip he hkey, ?_, by simp, rfl⟩
    rw [usedRanges_of_lookup hlookup]
    exact hfree
  · cases hr
    obtain ⟨hmem, hunused⟩ := List.mem_of_findConsume_eq_some hfind
    have hunused := isUnused_eq_true hunused
    rw [SnatPortRange.intoSourceNatConfig_ip, SnatPortRange.portRange_intoSourceNatConfig]
    refine ⟨hinv.remaining ip hmem, hunused.2, by simp [usedRanges_eq_empty hunused.1], ?_, hexcl⟩
    simp [usedRanges, hsnat]
  · cases hr

/-- **An exclusive claim fails only when every non-DNS IP of the pool is in use**, exclusively
    or for SNAT. -/
theorem claimNextExclusiveIp_error {e : ExternalNetworkingError} (hinv : Inv pool a)
    (h : a.claimNextExclusiveIp = (.error e, a')) :
    e = .noExternalServiceIpAvailable ∧
      ∀ ip ∈ pool, ip ∈ a.usedExclusiveIps ∨ ip ∈ a.usedSnatIps := by
  obtain ⟨-, ⟨ip, hr, -⟩ | ⟨hr, hfind, -⟩⟩ := claimNextExclusiveIp_cases h
  · cases hr
  · cases hr
    refine ⟨rfl, fun x hx => ?_⟩
    rcases hinv.consumed x hx with hrem | hexcl | hsnat
    · exact (isUnused_eq_false ((List.findConsume_eq_none hfind).2 x hrem)).symm
    · exact .inl hexcl
    · exact .inr hsnat

/-- **A SNAT claim fails only when every non-DNS IP of the pool is used exclusively or has its
    four port ranges in use.** -/
theorem claimNextSnatIp_error {e : ExternalNetworkingError} (hinv : Inv pool a)
    (h : a.claimNextSnatIp = (.error e, a')) :
    e = .noExternalServiceIpAvailable ∧
      ∀ ip ∈ pool, ip ∈ a.usedExclusiveIps ∨ ∀ r, r ∈ a.usedRanges ip := by
  rcases claimNextSnatIp_cases h with
    ⟨_, _, _, -, hr, -⟩ | ⟨-, _, -, hr, -, -⟩ | ⟨hreuse, hfind, hr, -, -⟩
  · cases hr
  · cases hr
  · cases hr
    refine ⟨rfl, fun x hx => ?_⟩
    -- an IP in use for SNAT is full, since none could be reused
    have hfull : x ∈ a.usedSnatIps → ∀ r, r ∈ a.usedRanges x := by
      intro hs r
      obtain ⟨used, hlookup⟩ := Finmap.mem_iff.mp hs
      rw [usedRanges_of_lookup hlookup]
      exact reusableSnatIp_eq_none hreuse x used hlookup r
    rcases hinv.consumed x hx with hrem | hexcl | hsnat
    · rcases isUnused_eq_false ((List.findConsume_eq_none hfind).2 x hrem) with hs | he
      · exact .inr (hfull hs)
      · exact .inl he
    · exact .inl hexcl
    · exact .inr (hfull hsnat)

end ExternalIpAllocator

end Omicron.Planning
