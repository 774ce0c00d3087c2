import Omicron.Oxql.Value

/-!
# Reconfigurator: the external IP policy

`ExternalIpPolicy` (`deployment::planning_input`) holds the ranges of the service IP pool, one
list for each address family, and the IPs among them set aside for external DNS. Its fields are
private: a policy comes from `ExternalIpPolicyBuilder`, whose calls keep what the source's comment
calls its invariant, that every external DNS IP lies in a pool range.

* `AddrRange` -- `Ipv4Range` and `Ipv6Range` with `contains`, `overlaps` and `iter`, which yields
  `first` and counts up to `last`;
* `ExternalIpPolicyBuilder` -- `push_service_pool_ipv4_range` and `push_service_pool_ipv6_range`
  refuse a range that overlaps one already pushed, `add_external_dns_ip` an IP outside the pools;
* `ExternalIpPolicy.intoNonExternalDnsIps` -- the pools' IPs, version 4 first, without the
  external DNS IPs: what Nexus and boundary NTP zones are given;
* `Built.externalDnsIps_mem_poolIps` -- **every external DNS IP of a built policy lies in its
  pools**, for every sequence of builder calls;
* `pushServicePoolIpv4Range_error` -- the overlap error carries the new range twice: its
  `existing_range` is not the range it overlaps.

A range's `iter` is the source's: `Ipv4Range::new` refuses `first > last`, but the fields are
public and the builder takes any range, and then `iter` yields `first` alone.
-/

namespace Omicron.Planning

open Oxql (IpAddr)

/-! ## 1. Address ranges -/

/-- `Ipv4Range` and `Ipv6Range`, over the addresses `Fin n` of a family: from `first` to `last`,
    both included. -/
structure AddrRange (n : Nat) where
  first : Fin n
  last : Fin n
  deriving DecidableEq, Repr

/-- `Ipv4Range`. -/
abbrev Ipv4Range := AddrRange (2 ^ 32)

/-- `Ipv6Range`. -/
abbrev Ipv6Range := AddrRange (2 ^ 128)

instance instNeZeroIpv4 : NeZero (2 ^ 32 : Nat) := ⟨pow_ne_zero _ two_ne_zero⟩

instance instNeZeroIpv6 : NeZero (2 ^ 128 : Nat) := ⟨pow_ne_zero _ two_ne_zero⟩

namespace AddrRange

variable {n : Nat}

/-- `contains`. -/
def contains (r : AddrRange n) (addr : Fin n) : Bool := r.first ≤ addr && addr ≤ r.last

/-- `overlaps`: the ranges are disjoint when one ends before the other begins. -/
def overlaps (r other : AddrRange n) : Bool := !(r.last < other.first || r.first > other.last)

/-- `iter` (`Ipv4RangeIter`, `Ipv6RangeIter`): `first`, then the next address while the last
    yielded is below `last`. -/
def iter [NeZero n] (r : AddrRange n) : List (Fin n) :=
  (List.range' r.first.val (r.last.val - r.first.val + 1)).map (Fin.ofNat n)

theorem mem_iter_of_contains [NeZero n] {r : AddrRange n} {a : Fin n} (h : r.contains a = true) :
    a ∈ r.iter := by
  simp only [contains, Bool.and_eq_true, decide_eq_true_eq] at h
  obtain ⟨hfirst, hlast⟩ := h
  have hf : r.first.val ≤ a.val := hfirst
  have hl : a.val ≤ r.last.val := hlast
  refine List.mem_map.mpr ⟨a.val, List.mem_range'_1.mpr ⟨hf, by omega⟩, ?_⟩
  exact Fin.ext (Nat.mod_eq_of_lt a.isLt)

example : (⟨3, 5⟩ : AddrRange 8).iter = [3, 4, 5] := by decide

example : (⟨5, 3⟩ : AddrRange 8).iter = [5] := by decide

end AddrRange

/-- `IpRange`. -/
inductive IpRange where
  | v4 (r : Ipv4Range)
  | v6 (r : Ipv6Range)
  deriving DecidableEq, Repr

/-! ## 2. The builder -/

/-- `ExternalIpPolicyError`. -/
inductive ExternalIpPolicyError where
  | overlappingRanges (newRange existingRange : IpRange)
  | externalDnsOutsideServiceIpPools (ip : IpAddr)
  deriving DecidableEq, Repr

/-- `ExternalIpPolicy`. -/
structure ExternalIpPolicy where
  servicePoolIpv4Ranges : List Ipv4Range
  servicePoolIpv6Ranges : List Ipv6Range
  externalDnsIps : Finset IpAddr

/-- `ExternalIpPolicyBuilder`. -/
structure ExternalIpPolicyBuilder where
  servicePoolIpv4Ranges : List Ipv4Range
  servicePoolIpv6Ranges : List Ipv6Range
  externalDnsIps : Finset IpAddr

namespace ExternalIpPolicyBuilder

/-- `ExternalIpPolicyBuilder::new`. -/
def new : ExternalIpPolicyBuilder := ⟨[], [], ∅⟩

/-- The check of `push_service_pool_ipv4_range` and `push_service_pool_ipv6_range`: a range
    already pushed overlaps the new one. The error is built with `new_range` in both of its
    fields, as the source builds it. -/
def checkOverlapping {n : Nat} (ranges : List (AddrRange n)) (newRange : AddrRange n)
    (into : AddrRange n → IpRange) : Except ExternalIpPolicyError Unit :=
  if ranges.any (·.overlaps newRange) then
    .error (.overlappingRanges (into newRange) (into newRange))
  else .ok ()

/-- `push_service_pool_ipv4_range`. -/
def pushServicePoolIpv4Range (b : ExternalIpPolicyBuilder) (newRange : Ipv4Range) :
    Except ExternalIpPolicyError ExternalIpPolicyBuilder := do
  checkOverlapping b.servicePoolIpv4Ranges newRange .v4
  pure { b with servicePoolIpv4Ranges := b.servicePoolIpv4Ranges ++ [newRange] }

/-- `push_service_pool_ipv6_range`. -/
def pushServicePoolIpv6Range (b : ExternalIpPolicyBuilder) (newRange : Ipv6Range) :
    Except ExternalIpPolicyError ExternalIpPolicyBuilder := do
  checkOverlapping b.servicePoolIpv6Ranges newRange .v6
  pure { b with servicePoolIpv6Ranges := b.servicePoolIpv6Ranges ++ [newRange] }

/-- `add_external_dns_ip`: the IP must lie in a range of its family. -/
def addExternalDnsIp (b : ExternalIpPolicyBuilder) (ip : IpAddr) :
    Except ExternalIpPolicyError ExternalIpPolicyBuilder :=
  let containedInPool := match ip with
    | .v4 a => b.servicePoolIpv4Ranges.any (·.contains a)
    | .v6 a => b.servicePoolIpv6Ranges.any (·.contains a)
  if containedInPool then .ok { b with externalDnsIps := insert ip b.externalDnsIps }
  else .error (.externalDnsOutsideServiceIpPools ip)

/-- `build`. -/
def build (b : ExternalIpPolicyBuilder) : ExternalIpPolicy :=
  ⟨b.servicePoolIpv4Ranges, b.servicePoolIpv6Ranges, b.externalDnsIps⟩

/-- One call of the builder that succeeds. A call that fails returns before it changes the
    builder, so these are all the changes a caller can make. -/
inductive Step : ExternalIpPolicyBuilder → ExternalIpPolicyBuilder → Prop where
  | pushServicePoolIpv4Range {b b' : ExternalIpPolicyBuilder} (r : Ipv4Range)
      (h : b.pushServicePoolIpv4Range r = .ok b') : Step b b'
  | pushServicePoolIpv6Range {b b' : ExternalIpPolicyBuilder} (r : Ipv6Range)
      (h : b.pushServicePoolIpv6Range r = .ok b') : Step b b'
  | addExternalDnsIp {b b' : ExternalIpPolicyBuilder} (ip : IpAddr)
      (h : b.addExternalDnsIp ip = .ok b') : Step b b'

/-- The builders that a sequence of calls reaches from `new`. -/
def Built (b : ExternalIpPolicyBuilder) : Prop := Relation.ReflTransGen Step new b

end ExternalIpPolicyBuilder

/-! ## 3. The IPs of a policy -/

namespace ExternalIpPolicy

/-- The IPs of the pools, the version-4 ranges first, each range in its `iter` order: the
    chain that `into_non_external_dns_ips` filters. -/
def poolIps (p : ExternalIpPolicy) : List IpAddr :=
  p.servicePoolIpv4Ranges.flatMap (fun r => r.iter.map .v4) ++
    p.servicePoolIpv6Ranges.flatMap (fun r => r.iter.map .v6)

/-- `into_non_external_dns_ips`. -/
def intoNonExternalDnsIps (p : ExternalIpPolicy) : List IpAddr :=
  p.poolIps.filter fun ip => ip ∉ p.externalDnsIps

@[simp] theorem mem_intoNonExternalDnsIps {p : ExternalIpPolicy} {ip : IpAddr} :
    ip ∈ p.intoNonExternalDnsIps ↔ ip ∈ p.poolIps ∧ ip ∉ p.externalDnsIps := by
  simp [intoNonExternalDnsIps]

/-- What the invariant of the source's comment says: every external DNS IP lies in a pool. -/
def DnsInPools (p : ExternalIpPolicy) : Prop := ∀ ip ∈ p.externalDnsIps, ip ∈ p.poolIps

end ExternalIpPolicy

namespace ExternalIpPolicyBuilder

variable {b b' : ExternalIpPolicyBuilder}

theorem pushServicePoolIpv4Range_eq_ok {r : Ipv4Range} (h : b.pushServicePoolIpv4Range r = .ok b') :
    b' = { b with servicePoolIpv4Ranges := b.servicePoolIpv4Ranges ++ [r] } := by
  unfold pushServicePoolIpv4Range at h
  cases hc : checkOverlapping b.servicePoolIpv4Ranges r .v4 with
  | error e => simp [hc, bind, Except.bind] at h
  | ok u =>
    simp only [hc, bind, Except.bind, pure, Except.pure, Except.ok.injEq] at h
    exact h.symm

theorem pushServicePoolIpv6Range_eq_ok {r : Ipv6Range} (h : b.pushServicePoolIpv6Range r = .ok b') :
    b' = { b with servicePoolIpv6Ranges := b.servicePoolIpv6Ranges ++ [r] } := by
  unfold pushServicePoolIpv6Range at h
  cases hc : checkOverlapping b.servicePoolIpv6Ranges r .v6 with
  | error e => simp [hc, bind, Except.bind] at h
  | ok u =>
    simp only [hc, bind, Except.bind, pure, Except.pure, Except.ok.injEq] at h
    exact h.symm

/-- **The overlap error names the new range twice**: the range it reports as existing is the
    one pushed, while some other range already there overlaps it. -/
theorem pushServicePoolIpv4Range_error {r : Ipv4Range} {e : ExternalIpPolicyError}
    (h : b.pushServicePoolIpv4Range r = .error e) :
    e = .overlappingRanges (.v4 r) (.v4 r) ∧ ∃ existing ∈ b.servicePoolIpv4Ranges,
      existing.overlaps r = true := by
  unfold pushServicePoolIpv4Range checkOverlapping at h
  split at h
  · rename_i hany
    simp only [bind, Except.bind, Except.error.injEq] at h
    obtain ⟨existing, hmem, hoverlaps⟩ := List.any_eq_true.mp hany
    exact ⟨h.symm, existing, hmem, hoverlaps⟩
  · simp [bind, Except.bind, pure, Except.pure] at h

theorem addExternalDnsIp_eq_ok {ip : IpAddr} (h : b.addExternalDnsIp ip = .ok b') :
    b' = { b with externalDnsIps := insert ip b.externalDnsIps } ∧
      match ip with
      | .v4 a => ∃ r ∈ b.servicePoolIpv4Ranges, r.contains a = true
      | .v6 a => ∃ r ∈ b.servicePoolIpv6Ranges, r.contains a = true := by
  unfold addExternalDnsIp at h
  dsimp only at h
  split_ifs at h with hcontained
  · refine ⟨(Except.ok.inj h).symm, ?_⟩
    cases ip <;> simpa using hcontained

/-- A pushed range keeps every IP of the pools. -/
theorem poolIps_push_v4 (r : Ipv4Range) {ip : IpAddr} (h : ip ∈ b.build.poolIps) :
    ip ∈ ({ b with servicePoolIpv4Ranges := b.servicePoolIpv4Ranges ++ [r] }).build.poolIps := by
  simp only [build, ExternalIpPolicy.poolIps, List.flatMap_append, List.mem_append] at h ⊢
  tauto

theorem poolIps_push_v6 (r : Ipv6Range) {ip : IpAddr} (h : ip ∈ b.build.poolIps) :
    ip ∈ ({ b with servicePoolIpv6Ranges := b.servicePoolIpv6Ranges ++ [r] }).build.poolIps := by
  simp only [build, ExternalIpPolicy.poolIps, List.flatMap_append, List.mem_append] at h ⊢
  tauto

/-- Every call keeps the external DNS IPs inside the pools. -/
theorem Step.dnsInPools (hs : Step b b') (h : b.build.DnsInPools) : b'.build.DnsInPools := by
  cases hs with
  | pushServicePoolIpv4Range r hr =>
    rw [pushServicePoolIpv4Range_eq_ok hr]
    exact fun ip hip => poolIps_push_v4 r (h ip hip)
  | pushServicePoolIpv6Range r hr =>
    rw [pushServicePoolIpv6Range_eq_ok hr]
    exact fun ip hip => poolIps_push_v6 r (h ip hip)
  | addExternalDnsIp ip hip =>
    obtain ⟨rfl, hcontained⟩ := addExternalDnsIp_eq_ok hip
    intro x hx
    rcases Finset.mem_insert.mp hx with rfl | hx
    · -- the new IP: the range that contains it yields it
      cases x with
      | v4 a =>
        obtain ⟨r, hr, hc⟩ := hcontained
        simp only [build, ExternalIpPolicy.poolIps, List.mem_append, List.mem_flatMap]
        exact .inl ⟨r, hr, List.mem_map.mpr ⟨a, AddrRange.mem_iter_of_contains hc, rfl⟩⟩
      | v6 a =>
        obtain ⟨r, hr, hc⟩ := hcontained
        simp only [build, ExternalIpPolicy.poolIps, List.mem_append, List.mem_flatMap]
        exact .inr ⟨r, hr, List.mem_map.mpr ⟨a, AddrRange.mem_iter_of_contains hc, rfl⟩⟩
    · exact h x hx

/-- **Every external DNS IP of a built policy lies in its pools.** -/
theorem Built.externalDnsIps_mem_poolIps (h : b.Built) : b.build.DnsInPools := by
  induction h with
  | refl => intro ip hip; simp [new, build] at hip
  | tail _ hs ih => exact hs.dnsInPools ih

end ExternalIpPolicyBuilder

end Omicron.Planning
