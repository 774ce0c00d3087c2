import Omicron.Lib.SortedFinmap

/-!
# Reconfigurator: ClickHouse keeper and server ids

`ClickhouseAllocator::plan` (`blueprint_builder::clickhouse`) turns the ClickHouse cluster
configuration of the parent blueprint into the next one, given the keeper and server zones that
should run and the keeper membership inventory last saw:

* servers: those of zones no longer running are dropped, and each new server zone gets the next
  `ServerId`;
* keepers: at most one change per blueprint. With no inventory, only a cluster that never had a
  keeper (`max_used_keeper_id == 0`) gets one keeper per zone at once. When the parent's keepers
  differ from inventory's raft configuration, a reconfiguration is under way, and only an added
  keeper whose zone is gone is taken back. Otherwise the first keeper of a zone that is gone is
  removed, or else the first zone without a keeper gets the next `KeeperId`;
* the generation moves on exactly when the keepers or the servers changed.

Ids are `u64`, whose `+=` wraps past `u64::MAX` in a release build: `KeeperId` and `ServerId`
are `Fin (2 ^ 64)`. `plan_spec` states what `plan` guarantees while no id wraps, and
`plan_wraps_server_id` a run where one does.

The `Generation::next` assertion and the `unwrap`s are `none`. The cluster's name and secret, and
the keeper that inventory queried, are left out: `plan` never reads them.
-/

namespace Omicron.Planning

/-- `OmicronZoneUuid`, of which only the order matters here. -/
abbrev ZoneId := Nat

/-- `KeeperId(u64)`. -/
abbrev KeeperId := Fin (2 ^ 64)

/-- `ServerId(u64)`. -/
abbrev ServerId := Fin (2 ^ 64)

/-- `Generation`: at most `i64::MAX`. -/
structure Generation where
  val : Nat
  le_max : val ≤ 2 ^ 63 - 1
  deriving DecidableEq

/-- `Generation::new`. -/
def Generation.new : Generation := ⟨1, by decide⟩

/-- `Generation::next`: `none` is its `assert!` past `i64::MAX`. -/
def Generation.next (g : Generation) : Option Generation :=
  if h : g.val + 1 ≤ 2 ^ 63 - 1 then some ⟨g.val + 1, h⟩ else none

theorem Generation.val_of_next_eq_some {g g' : Generation} (h : g.next = some g') :
    g'.val = g.val + 1 := by
  unfold Generation.next at h
  split at h
  · cases h
    rfl
  · cases h

theorem Generation.next_isSome {g : Generation} (h : g.val < 2 ^ 63 - 1) : g.next.isSome := by
  unfold Generation.next
  rw [dif_pos (by omega)]
  rfl

/-- `ClickhouseClusterConfig`, less its name and secret. -/
structure ClickhouseClusterConfig where
  generation : Generation
  maxUsedServerId : ServerId
  maxUsedKeeperId : KeeperId
  highestSeenKeeperLeaderCommittedLogIndex : Nat
  keepers : Finmap fun _ : ZoneId => KeeperId
  servers : Finmap fun _ : ZoneId => ServerId

/-- `ClickhouseClusterConfig::needs_generation_bump`. -/
def ClickhouseClusterConfig.needsGenerationBump (self parent : ClickhouseClusterConfig) : Bool :=
  decide (self.keepers ≠ parent.keepers) || decide (self.servers ≠ parent.servers)

/-- `ClickhouseKeeperClusterMembership`, less the keeper that was queried. -/
structure ClickhouseKeeperClusterMembership where
  leaderCommittedLogIndex : Nat
  raftConfig : Finset KeeperId

/-- `ClickhouseZonesThatShouldBeRunning`. -/
structure ClickhouseZonesThatShouldBeRunning where
  keepers : Finset ZoneId
  servers : Finset ZoneId

/-- `KeeperAllocationError`. -/
inductive KeeperAllocationError where
  | badMembershipChange (addedKeepers : Finset KeeperId)
  deriving DecidableEq

namespace ClickhouseAllocator

/-- The closure `bump_gen_if_necessary`. -/
def bumpGenIfNecessary (parent newConfig : ClickhouseClusterConfig) :
    Option (Except KeeperAllocationError ClickhouseClusterConfig) :=
  if newConfig.needsGenerationBump parent then
    newConfig.generation.next.map fun generation => .ok { newConfig with generation }
  else some (.ok newConfig)

/-- One round of the loop over the server zones: a zone without a server gets the next id. -/
def addServer (config : ClickhouseClusterConfig) (zoneId : ZoneId) : ClickhouseClusterConfig :=
  if zoneId ∈ config.servers then config
  else
    let maxUsedServerId := config.maxUsedServerId + 1
    { config with maxUsedServerId, servers := config.servers.insert zoneId maxUsedServerId }

/-- A keeper for the zone, under the next id. -/
def addKeeper (config : ClickhouseClusterConfig) (zoneId : ZoneId) : ClickhouseClusterConfig :=
  let maxUsedKeeperId := config.maxUsedKeeperId + 1
  { config with maxUsedKeeperId, keepers := config.keepers.insert zoneId maxUsedKeeperId }

/-- The servers of `plan`: the parent's, less the zones that no longer run, and a new id for
    each new zone. -/
def planServers (parent : ClickhouseClusterConfig) (active : ClickhouseZonesThatShouldBeRunning) :
    ClickhouseClusterConfig :=
  active.servers.ascending.foldl addServer
    { parent with servers := parent.servers.retain fun zoneId _ => decide (zoneId ∈ active.servers) }

/-- The block `if inventory_updated { new_config.highest_seen_keeper_leader_committed_log_index =
    .. }` that `plan` repeats. -/
def saveLogIndex (inventoryUpdated : Bool) (index : Nat) (config : ClickhouseClusterConfig) :
    ClickhouseClusterConfig :=
  if inventoryUpdated then { config with highestSeenKeeperLeaderCommittedLogIndex := index }
  else config

/-- `ClickhouseAllocator::plan`. -/
def plan (parent : ClickhouseClusterConfig) (inventory : Option ClickhouseKeeperClusterMembership)
    (active : ClickhouseZonesThatShouldBeRunning) :
    Option (Except KeeperAllocationError ClickhouseClusterConfig) :=
  let newConfig := planServers parent active
  let currentKeepers := parent.keepers.sortedValues.toFinset
  match inventory with
  | none =>
    -- only a cluster that never had a keeper is given its keepers all at once
    if newConfig.maxUsedKeeperId = 0 then
      bumpGenIfNecessary parent (active.keepers.ascending.foldl addKeeper newConfig)
    else bumpGenIfNecessary parent newConfig
  | some inventoryMembership =>
    let inventoryUpdated := decide (parent.highestSeenKeeperLeaderCommittedLogIndex <
      inventoryMembership.leaderCommittedLogIndex)
    let seen := saveLogIndex inventoryUpdated inventoryMembership.leaderCommittedLogIndex
    if currentKeepers ≠ inventoryMembership.raftConfig then
      -- a reconfiguration is under way
      if !inventoryUpdated then bumpGenIfNecessary parent newConfig
      else
        let newConfig := { newConfig with
          highestSeenKeeperLeaderCommittedLogIndex := inventoryMembership.leaderCommittedLogIndex }
        let addedKeepers := currentKeepers \ inventoryMembership.raftConfig
        if 1 < addedKeepers.card then some (.error (.badMembershipChange addedKeepers))
        else
          match addedKeepers.ascending with
          | [] => bumpGenIfNecessary parent newConfig
          | addedKeeperId :: _ =>
            match parent.keepers.sortedEntries.find? (·.2 = addedKeeperId) with
            | none => none
            | some (addedZoneId, _) =>
              if addedZoneId ∉ active.keepers then
                bumpGenIfNecessary parent
                  { newConfig with keepers := newConfig.keepers.erase addedZoneId }
              else bumpGenIfNecessary parent newConfig
    else
      match parent.keepers.keys.ascending.find? (· ∉ active.keepers) with
      | some zoneId =>
        bumpGenIfNecessary parent (seen { newConfig with keepers := newConfig.keepers.erase zoneId })
      | none =>
        match active.keepers.ascending.find? (· ∉ newConfig.keepers) with
        | some zoneId => bumpGenIfNecessary parent (seen (addKeeper newConfig zoneId))
        | none => bumpGenIfNecessary parent newConfig

/-! ## Ids handed out -/

/-- Past `u64::MAX` the id would wrap; below it, the next id is one more. -/
theorem val_add_one_of_lt {i : Fin (2 ^ 64)} (h : i.val + 1 < 2 ^ 64) : (i + 1).val = i.val + 1 := by
  simp only [Fin.val_add, Fin.val_one']
  omega

/-- The ids of a map are distinct, at least one, and at most the last one handed out. -/
structure IdsValid (m : Finmap fun _ : ZoneId => Fin (2 ^ 64)) (maxUsed : Fin (2 ^ 64)) : Prop where
  injective : ∀ {z z' id}, m.lookup z = some id → m.lookup z' = some id → z = z'
  pos : ∀ {z id}, m.lookup z = some id → 0 < id
  le_maxUsed : ∀ {z id}, m.lookup z = some id → id ≤ maxUsed

/-- The entries of `m'` were handed out after those of `m`: the last id only grows, and an
    entry of `m'` is one of `m` or has an id past the last one of `m`. -/
structure Allocated (m m' : Finmap fun _ : ZoneId => Fin (2 ^ 64)) (maxUsed maxUsed' : Fin (2 ^ 64)) :
    Prop where
  le : maxUsed ≤ maxUsed'
  fresh : ∀ {z id}, m'.lookup z = some id → m.lookup z = some id ∨ maxUsed < id

section Ids

variable {m m' m'' : Finmap fun _ : ZoneId => Fin (2 ^ 64)} {a b c : Fin (2 ^ 64)}

/-- Dropping entries keeps the ids valid. -/
theorem IdsValid.of_sub (h : IdsValid m a) (hsub : ∀ {z id}, m'.lookup z = some id → m.lookup z = some id) :
    IdsValid m' a where
  injective hz hz' := h.injective (hsub hz) (hsub hz')
  pos hz := h.pos (hsub hz)
  le_maxUsed hz := h.le_maxUsed (hsub hz)

/-- A new zone under the next id keeps the ids valid, as long as that id does not wrap. -/
theorem IdsValid.insert_next (h : IdsValid m a) (hwrap : a.val + 1 < 2 ^ 64) {z : ZoneId}
    (hz : z ∉ m) : IdsValid (m.insert z (a + 1)) (a + 1) := by
  have hnext : (a + 1).val = a.val + 1 := val_add_one_of_lt hwrap
  -- the old entries, all at most `a`, below the new id
  have hold : ∀ {z' id}, (m.insert z (a + 1)).lookup z' = some id → z' ≠ z →
      m.lookup z' = some id := fun hl hne => by rwa [Finmap.lookup_insert_of_ne _ hne] at hl
  have hbelow : ∀ {z' id}, m.lookup z' = some id → id ≠ a + 1 := fun hl hid => by
    have hle := h.le_maxUsed hl
    rw [hid, Fin.le_def, hnext] at hle
    omega
  refine ⟨fun {z₁ z₂ id} h₁ h₂ => ?_, fun {z' id} hl => ?_, fun {z' id} hl => ?_⟩
  · by_cases e₁ : z₁ = z <;> by_cases e₂ : z₂ = z
    · rw [e₁, e₂]
    · subst e₁
      rw [Finmap.lookup_insert] at h₁
      cases h₁
      exact absurd rfl (hbelow (hold h₂ e₂))
    · subst e₂
      rw [Finmap.lookup_insert] at h₂
      cases h₂
      exact absurd rfl (hbelow (hold h₁ e₁))
    · exact h.injective (hold h₁ e₁) (hold h₂ e₂)
  · by_cases e : z' = z
    · subst e
      rw [Finmap.lookup_insert] at hl
      cases hl
      rw [Fin.lt_def, hnext]
      exact Nat.succ_pos _
    · exact h.pos (hold hl e)
  · by_cases e : z' = z
    · subst e
      rw [Finmap.lookup_insert] at hl
      cases hl
      exact le_refl _
    · have hle := h.le_maxUsed (hold hl e)
      rw [Fin.le_def] at hle ⊢
      omega

theorem Allocated.refl (m : Finmap fun _ : ZoneId => Fin (2 ^ 64)) (a : Fin (2 ^ 64)) :
    Allocated m m a a :=
  ⟨le_refl a, fun hz => .inl hz⟩

theorem Allocated.of_sub (hsub : ∀ {z id}, m'.lookup z = some id → m.lookup z = some id) :
    Allocated m m' a a :=
  ⟨le_refl a, fun hz => .inl (hsub hz)⟩

theorem Allocated.trans (h₁ : Allocated m m' a b) (h₂ : Allocated m' m'' b c) :
    Allocated m m'' a c := by
  refine ⟨le_trans h₁.le h₂.le, fun {z id} hz => ?_⟩
  rcases h₂.fresh hz with hz' | hlt
  · exact h₁.fresh hz'
  · exact .inr (lt_of_le_of_lt h₁.le hlt)

/-- A zone under the next id is handed out after everything before, as long as it does not
    wrap. -/
theorem Allocated.insert_next (hwrap : a.val + 1 < 2 ^ 64) (z : ZoneId) :
    Allocated m (m.insert z (a + 1)) a (a + 1) := by
  have hnext : (a + 1).val = a.val + 1 := val_add_one_of_lt hwrap
  refine ⟨by rw [Fin.le_def, hnext]; omega, fun {z' id} hl => ?_⟩
  by_cases e : z' = z
  · subst e
    rw [Finmap.lookup_insert] at hl
    cases hl
    exact .inr (by rw [Fin.lt_def, hnext]; omega)
  · rw [Finmap.lookup_insert_of_ne _ e] at hl
    exact .inl hl

end Ids

/-! ## The server loop and the keeper loop -/

/-- The server loop changes the servers and their last id only. -/
theorem foldl_addServer_eq (l : List ZoneId) (c : ClickhouseClusterConfig) :
    l.foldl addServer c = { c with
      maxUsedServerId := (l.foldl addServer c).maxUsedServerId
      servers := (l.foldl addServer c).servers } := by
  induction l generalizing c with
  | nil => rfl
  | cons z l ih =>
    rw [List.foldl_cons, ih]
    unfold addServer
    split <;> rfl

/-- The keeper loop changes the keepers and their last id only. -/
theorem foldl_addKeeper_eq (l : List ZoneId) (c : ClickhouseClusterConfig) :
    l.foldl addKeeper c = { c with
      maxUsedKeeperId := (l.foldl addKeeper c).maxUsedKeeperId
      keepers := (l.foldl addKeeper c).keepers } := by
  induction l generalizing c with
  | nil => rfl
  | cons z l ih =>
    rw [List.foldl_cons, ih]
    rfl

theorem mem_addServer {c : ClickhouseClusterConfig} {z z' : ZoneId} :
    z ∈ (addServer c z').servers ↔ z ∈ c.servers ∨ z = z' := by
  unfold addServer
  split
  · rename_i hz'
    constructor
    · exact .inl
    · rintro (h | rfl)
      · exact h
      · exact hz'
  · simp [Finmap.mem_insert, or_comm]

/-- After the server loop, a zone has a server if it had one or the loop went through it. -/
theorem mem_foldl_addServer (l : List ZoneId) (c : ClickhouseClusterConfig) (z : ZoneId) :
    z ∈ (l.foldl addServer c).servers ↔ z ∈ c.servers ∨ z ∈ l := by
  induction l generalizing c with
  | nil => simp
  | cons z' l ih =>
    rw [List.foldl_cons, ih, mem_addServer, List.mem_cons]
    tauto

/-- The server loop keeps the id of every server it finds. -/
theorem lookup_foldl_addServer {l : List ZoneId} {c : ClickhouseClusterConfig} {z : ZoneId}
    {id : ServerId} (h : c.servers.lookup z = some id) :
    (l.foldl addServer c).servers.lookup z = some id := by
  induction l generalizing c with
  | nil => exact h
  | cons z' l ih =>
    apply ih
    unfold addServer
    split
    · exact h
    · rename_i hz'
      have hne : z ≠ z' := fun e => hz' (e ▸ Finmap.mem_of_lookup_eq_some h)
      rw [Finmap.lookup_insert_of_ne _ hne]
      exact h

/-- One round of the server loop hands out at most one id, the next one. -/
theorem addServer_ids {c : ClickhouseClusterConfig} (hv : IdsValid c.servers c.maxUsedServerId)
    (hwrap : c.maxUsedServerId.val + 1 < 2 ^ 64) (z : ZoneId) :
    IdsValid (addServer c z).servers (addServer c z).maxUsedServerId ∧
      Allocated c.servers (addServer c z).servers c.maxUsedServerId (addServer c z).maxUsedServerId ∧
      (addServer c z).maxUsedServerId.val ≤ c.maxUsedServerId.val + 1 := by
  unfold addServer
  split
  · exact ⟨hv, Allocated.refl _ _, Nat.le_succ _⟩
  · rename_i hz
    exact ⟨hv.insert_next hwrap hz, Allocated.insert_next hwrap z,
      (val_add_one_of_lt hwrap).le⟩

/-- The server loop keeps the ids valid, while they do not wrap. -/
theorem foldl_addServer_ids (l : List ZoneId) (c : ClickhouseClusterConfig)
    (hv : IdsValid c.servers c.maxUsedServerId) (hwrap : c.maxUsedServerId.val + l.length < 2 ^ 64) :
    IdsValid (l.foldl addServer c).servers (l.foldl addServer c).maxUsedServerId ∧
      Allocated c.servers (l.foldl addServer c).servers c.maxUsedServerId
        (l.foldl addServer c).maxUsedServerId := by
  induction l generalizing c with
  | nil => exact ⟨hv, Allocated.refl _ _⟩
  | cons z l ih =>
    have hstep := addServer_ids hv (by simp at hwrap; omega) z
    obtain ⟨hvalid, hgrown⟩ := ih (addServer c z) hstep.1 (by simp at hwrap; omega)
    exact ⟨hvalid, hstep.2.1.trans hgrown⟩

/-- Handing out keeper ids to new zones, one after the other, keeps them valid while they do
    not wrap. -/
theorem foldl_addKeeper_ids (l : List ZoneId) (c : ClickhouseClusterConfig) (hnodup : l.Nodup)
    (hfresh : ∀ z ∈ l, z ∉ c.keepers) (hv : IdsValid c.keepers c.maxUsedKeeperId)
    (hwrap : c.maxUsedKeeperId.val + l.length < 2 ^ 64) :
    IdsValid (l.foldl addKeeper c).keepers (l.foldl addKeeper c).maxUsedKeeperId ∧
      Allocated c.keepers (l.foldl addKeeper c).keepers c.maxUsedKeeperId
        (l.foldl addKeeper c).maxUsedKeeperId := by
  induction l generalizing c with
  | nil => exact ⟨hv, Allocated.refl _ _⟩
  | cons z l ih =>
    have hnext : c.maxUsedKeeperId.val + 1 < 2 ^ 64 := by simp at hwrap; omega
    obtain ⟨hz, hnodup'⟩ := List.nodup_cons.mp hnodup
    -- the zones still to come are not among the keepers, the one just added included
    have hfresh' : ∀ z' ∈ l, z' ∉ (addKeeper c z).keepers := fun z' hz' hmem => by
      rcases Finmap.mem_insert.mp hmem with rfl | hmem
      · exact hz hz'
      · exact hfresh z' (List.mem_cons_of_mem z hz') hmem
    obtain ⟨hvalid, hgrown⟩ := ih (addKeeper c z) hnodup' hfresh'
      (hv.insert_next hnext (hfresh z List.mem_cons_self))
      (by rw [addKeeper, val_add_one_of_lt hnext]; simp at hwrap; omega)
    exact ⟨hvalid, (Allocated.insert_next hnext z).trans hgrown⟩

/-! ## The servers of a plan -/

section PlanServers

variable (parent : ClickhouseClusterConfig) (active : ClickhouseZonesThatShouldBeRunning)

theorem planServers_eq : planServers parent active = { parent with
    maxUsedServerId := (planServers parent active).maxUsedServerId
    servers := (planServers parent active).servers } := by
  unfold planServers
  rw [foldl_addServer_eq]

@[simp] theorem keepers_planServers : (planServers parent active).keepers = parent.keepers :=
  by rw [planServers_eq]

@[simp] theorem maxUsedKeeperId_planServers :
    (planServers parent active).maxUsedKeeperId = parent.maxUsedKeeperId :=
  by rw [planServers_eq]

@[simp] theorem highestSeen_planServers :
    (planServers parent active).highestSeenKeeperLeaderCommittedLogIndex =
      parent.highestSeenKeeperLeaderCommittedLogIndex :=
  by rw [planServers_eq]

@[simp] theorem generation_planServers : (planServers parent active).generation = parent.generation :=
  by rw [planServers_eq]

/-- **The servers are those of the active server zones.** -/
theorem mem_planServers (z : ZoneId) : z ∈ (planServers parent active).servers ↔ z ∈ active.servers := by
  unfold planServers
  rw [mem_foldl_addServer, Finset.mem_ascending]
  constructor
  · rintro (hz | hz)
    · obtain ⟨id, hid⟩ := Option.isSome_iff_exists.mp (Finmap.lookup_isSome.mpr hz)
      rw [Finmap.lookup_retain] at hid
      simpa using (Option.filter_eq_some_iff.mp hid).2
    · exact hz
  · exact .inr

/-- **A server of an active zone keeps its id.** -/
theorem lookup_planServers {z : ZoneId} {id : ServerId} (h : parent.servers.lookup z = some id)
    (hz : z ∈ active.servers) : (planServers parent active).servers.lookup z = some id := by
  apply lookup_foldl_addServer
  rw [Finmap.lookup_retain, h]
  simp [hz]

/-- The server ids stay valid, while they do not wrap. -/
theorem planServers_ids (hv : IdsValid parent.servers parent.maxUsedServerId)
    (hwrap : parent.maxUsedServerId.val + active.servers.card < 2 ^ 64) :
    IdsValid (planServers parent active).servers (planServers parent active).maxUsedServerId ∧
      Allocated parent.servers (planServers parent active).servers parent.maxUsedServerId
        (planServers parent active).maxUsedServerId := by
  have hretain : IdsValid (parent.servers.retain fun zoneId _ => decide (zoneId ∈ active.servers))
      parent.maxUsedServerId :=
    hv.of_sub Finmap.lookup_of_lookup_retain
  obtain ⟨hvalid, hgrown⟩ := foldl_addServer_ids active.servers.ascending
    { parent with servers := parent.servers.retain fun zoneId _ => decide (zoneId ∈ active.servers) }
    hretain (by simpa using hwrap)
  have hretained : Allocated parent.servers
      (parent.servers.retain fun zoneId _ => decide (zoneId ∈ active.servers))
      parent.maxUsedServerId parent.maxUsedServerId :=
    Allocated.of_sub Finmap.lookup_of_lookup_retain
  exact ⟨hvalid, hretained.trans hgrown⟩

end PlanServers

/-! ## What a plan can do -/

/-- A successful `bump_gen_if_necessary` sets the generation, to the next one exactly when the
    keepers or the servers changed. -/
theorem bumpGenIfNecessary_eq_ok {parent newConfig config : ClickhouseClusterConfig}
    (h : bumpGenIfNecessary parent newConfig = some (.ok config)) :
    config = { newConfig with generation := config.generation } ∧
      (newConfig.needsGenerationBump parent = true → newConfig.generation.next = some config.generation) ∧
      (newConfig.needsGenerationBump parent = false → config.generation = newConfig.generation) := by
  unfold bumpGenIfNecessary at h
  split at h
  · rename_i hbump
    obtain ⟨generation, hnext, hcfg⟩ := Option.map_eq_some_iff.mp h
    cases hcfg
    exact ⟨rfl, fun _ => hnext, fun hf => absurd hbump (by simp [hf])⟩
  · rename_i hbump
    cases h
    exact ⟨rfl, fun ht => absurd ht hbump, fun _ => rfl⟩

/-- What `plan` may do to the keepers: nothing, take the keeper of one zone away, give one new
    active zone the next id, or, on a cluster that never had a keeper and with no inventory,
    give every active keeper zone an id. -/
inductive KeeperChange (parent : ClickhouseClusterConfig)
    (inventory : Option ClickhouseKeeperClusterMembership) (active : ClickhouseZonesThatShouldBeRunning) :
    (Finmap fun _ : ZoneId => KeeperId) → KeeperId → Prop
  | unchanged : KeeperChange parent inventory active parent.keepers parent.maxUsedKeeperId
  | remove {zoneId : ZoneId} (hmem : zoneId ∈ parent.keepers) :
    KeeperChange parent inventory active (parent.keepers.erase zoneId) parent.maxUsedKeeperId
  | add {zoneId : ZoneId} (hnew : zoneId ∉ parent.keepers) (hactive : zoneId ∈ active.keepers) :
    KeeperChange parent inventory active (parent.keepers.insert zoneId (parent.maxUsedKeeperId + 1))
      (parent.maxUsedKeeperId + 1)
  | bootstrap (hnone : inventory = none) (hzero : parent.maxUsedKeeperId = 0) :
    KeeperChange parent inventory active
      (active.keepers.ascending.foldl addKeeper (planServers parent active)).keepers
      (active.keepers.ascending.foldl addKeeper (planServers parent active)).maxUsedKeeperId

section Fields

variable (u : Bool) (index : Nat) (c : ClickhouseClusterConfig) (z : ZoneId)

@[simp] theorem keepers_saveLogIndex : (saveLogIndex u index c).keepers = c.keepers := by
  unfold saveLogIndex; split <;> rfl

@[simp] theorem maxUsedKeeperId_saveLogIndex :
    (saveLogIndex u index c).maxUsedKeeperId = c.maxUsedKeeperId := by
  unfold saveLogIndex; split <;> rfl

@[simp] theorem servers_saveLogIndex : (saveLogIndex u index c).servers = c.servers := by
  unfold saveLogIndex; split <;> rfl

@[simp] theorem maxUsedServerId_saveLogIndex :
    (saveLogIndex u index c).maxUsedServerId = c.maxUsedServerId := by
  unfold saveLogIndex; split <;> rfl

@[simp] theorem generation_saveLogIndex : (saveLogIndex u index c).generation = c.generation := by
  unfold saveLogIndex; split <;> rfl

/-- The log index is saved only when inventory moved past the one seen before. -/
theorem le_highestSeen_saveLogIndex {seen : Nat} (hc : seen ≤ c.highestSeenKeeperLeaderCommittedLogIndex) :
    seen ≤ (saveLogIndex (decide (seen < index)) index c).highestSeenKeeperLeaderCommittedLogIndex := by
  unfold saveLogIndex
  split
  · rename_i hlt
    exact Nat.le_of_lt (of_decide_eq_true hlt)
  · exact hc

@[simp] theorem servers_addKeeper : (addKeeper c z).servers = c.servers := rfl

@[simp] theorem maxUsedServerId_addKeeper : (addKeeper c z).maxUsedServerId = c.maxUsedServerId := rfl

@[simp] theorem generation_addKeeper : (addKeeper c z).generation = c.generation := rfl

@[simp] theorem highestSeen_addKeeper :
    (addKeeper c z).highestSeenKeeperLeaderCommittedLogIndex =
      c.highestSeenKeeperLeaderCommittedLogIndex := rfl

end Fields

/-- **What a successful plan is**, said once: the servers of `planServers`, one of the keeper
    changes, a log index at least the parent's, and the generation `bump_gen_if_necessary`
    sets. -/
theorem plan_cases {parent config : ClickhouseClusterConfig}
    {inventory : Option ClickhouseKeeperClusterMembership} {active : ClickhouseZonesThatShouldBeRunning}
    (h : plan parent inventory active = some (.ok config)) :
    ∃ newConfig, bumpGenIfNecessary parent newConfig = some (.ok config) ∧
      newConfig.generation = parent.generation ∧
      newConfig.servers = (planServers parent active).servers ∧
      newConfig.maxUsedServerId = (planServers parent active).maxUsedServerId ∧
      parent.highestSeenKeeperLeaderCommittedLogIndex ≤
        newConfig.highestSeenKeeperLeaderCommittedLogIndex ∧
      KeeperChange parent inventory active newConfig.keepers newConfig.maxUsedKeeperId := by
  have hunchanged : KeeperChange parent inventory active (planServers parent active).keepers
      (planServers parent active).maxUsedKeeperId := by
    rw [keepers_planServers, maxUsedKeeperId_planServers]
    exact .unchanged
  unfold plan at h
  rcases inventory with _ | inventoryMembership
  · -- no inventory: the keepers of a new cluster, or none
    dsimp only at h
    split at h
    · rename_i hzero
      refine ⟨_, h, ?_, ?_, ?_, ?_, .bootstrap rfl (by simpa using hzero)⟩ <;>
        rw [foldl_addKeeper_eq] <;> simp
    · exact ⟨_, h, by simp, rfl, rfl, by simp, hunchanged⟩
  · dsimp only at h
    split at h
    · -- a reconfiguration under way
      split at h
      · exact ⟨_, h, by simp, rfl, rfl, by simp, hunchanged⟩
      · rename_i hupdated
        have hlt : parent.highestSeenKeeperLeaderCommittedLogIndex <
            inventoryMembership.leaderCommittedLogIndex := by simpa using hupdated
        split at h
        · cases h
        · split at h
          · exact ⟨_, h, by simp, rfl, rfl, Nat.le_of_lt hlt, hunchanged⟩
          · split at h
            · cases h
            · rename_i addedZoneId addedKeeper hfind
              have hmem : addedZoneId ∈ parent.keepers := by
                have hentry := List.mem_of_find?_eq_some hfind
                exact Finmap.mem_of_lookup_eq_some (Finmap.mem_sortedEntries.mp hentry)
              split at h
              · refine ⟨_, h, by simp, rfl, rfl, Nat.le_of_lt hlt, ?_⟩
                dsimp only
                rw [keepers_planServers, maxUsedKeeperId_planServers]
                exact .remove hmem
              · exact ⟨_, h, by simp, rfl, rfl, Nat.le_of_lt hlt, hunchanged⟩
    · -- the keepers agree with inventory: one removal, or one addition
      split at h
      · rename_i zoneId hfind
        have hmem : zoneId ∈ parent.keepers := by
          have hkey := List.mem_of_find?_eq_some hfind
          rw [Finset.mem_ascending, Finmap.mem_keys] at hkey
          exact hkey
        refine ⟨_, h, by simp, by simp, by simp, le_highestSeen_saveLogIndex _ _ (by simp), ?_⟩
        simp only [keepers_saveLogIndex, maxUsedKeeperId_saveLogIndex]
        rw [keepers_planServers, maxUsedKeeperId_planServers]
        exact .remove hmem
      · split at h
        · rename_i zoneId hfind
          have hnew : zoneId ∉ parent.keepers := by
            simpa using List.find?_some hfind
          have hactive : zoneId ∈ active.keepers := by
            simpa using List.mem_of_find?_eq_some hfind
          refine ⟨_, h, by simp, by simp, by simp, le_highestSeen_saveLogIndex _ _ (by simp), ?_⟩
          simp only [keepers_saveLogIndex, maxUsedKeeperId_saveLogIndex, addKeeper]
          rw [keepers_planServers, maxUsedKeeperId_planServers]
          exact .add hnew hactive
        · exact ⟨_, h, by simp, rfl, rfl, by simp, hunchanged⟩

/-! ## What a plan guarantees -/

section PlanSpec

variable {parent config : ClickhouseClusterConfig} {inventory : Option ClickhouseKeeperClusterMembership}
  {active : ClickhouseZonesThatShouldBeRunning}

/-- The keepers and servers of a successful plan are those `plan_cases` describes; only the
    generation is set after them. -/
theorem plan_fields (h : plan parent inventory active = some (.ok config)) :
    ∃ newConfig : ClickhouseClusterConfig, config = { newConfig with generation := config.generation } ∧
      (newConfig.needsGenerationBump parent = true → parent.generation.next = some config.generation) ∧
      (newConfig.needsGenerationBump parent = false → config.generation = parent.generation) ∧
      newConfig.servers = (planServers parent active).servers ∧
      newConfig.maxUsedServerId = (planServers parent active).maxUsedServerId ∧
      parent.highestSeenKeeperLeaderCommittedLogIndex ≤
        newConfig.highestSeenKeeperLeaderCommittedLogIndex ∧
      KeeperChange parent inventory active newConfig.keepers newConfig.maxUsedKeeperId := by
  obtain ⟨newConfig, hbump, hgen, hservers, hmax, hseen, hkeepers⟩ := plan_cases h
  obtain ⟨hconfig, hnext, hsame⟩ := bumpGenIfNecessary_eq_ok hbump
  exact ⟨newConfig, hconfig, hgen ▸ hnext, fun hf => (hsame hf).trans hgen, hservers, hmax, hseen,
    hkeepers⟩

/-- **The servers are those of the active zones, and a kept server keeps its id.** -/
theorem plan_servers (h : plan parent inventory active = some (.ok config)) :
    (∀ z, z ∈ config.servers ↔ z ∈ active.servers) ∧
      ∀ {z id}, parent.servers.lookup z = some id → z ∈ active.servers →
        config.servers.lookup z = some id := by
  obtain ⟨newConfig, hconfig, -, -, hservers, -, -, -⟩ := plan_fields h
  have hcs : config.servers = (planServers parent active).servers := by rw [hconfig, ← hservers]
  rw [hcs]
  exact ⟨mem_planServers parent active, lookup_planServers parent active⟩

/-- **The log index seen never goes back.** -/
theorem plan_highestSeen (h : plan parent inventory active = some (.ok config)) :
    parent.highestSeenKeeperLeaderCommittedLogIndex ≤ config.highestSeenKeeperLeaderCommittedLogIndex := by
  obtain ⟨newConfig, hconfig, -, -, -, -, hseen, -⟩ := plan_fields h
  rw [hconfig]
  exact hseen

/-- **Outside the bootstrap, the keepers change by at most one entry.** -/
theorem plan_keepers (h : plan parent inventory active = some (.ok config))
    (hboot : inventory ≠ none ∨ parent.maxUsedKeeperId ≠ 0) :
    config.keepers = parent.keepers ∨ (∃ z ∈ parent.keepers, config.keepers = parent.keepers.erase z) ∨
      ∃ z, z ∉ parent.keepers ∧ ∃ id, config.keepers = parent.keepers.insert z id := by
  obtain ⟨newConfig, hconfig, -, -, -, -, -, hkeepers⟩ := plan_fields h
  have hck : config.keepers = newConfig.keepers := by rw [hconfig]
  rw [hck]
  generalize newConfig.keepers = keepers at hkeepers ⊢
  generalize newConfig.maxUsedKeeperId = maxUsed at hkeepers
  cases hkeepers with
  | unchanged => exact .inl rfl
  | remove hmem => exact .inr (.inl ⟨_, hmem, rfl⟩)
  | add hnew _ => exact .inr (.inr ⟨_, hnew, _, rfl⟩)
  | bootstrap hnone hzero =>
    -- the bootstrap is the one case the statement leaves out
    rcases hboot with hinv | hmax
    · exact absurd hnone hinv
    · exact absurd hzero hmax

/-- **The generation moves on exactly when the keepers or the servers changed.** -/
theorem plan_generation (h : plan parent inventory active = some (.ok config)) :
    ((config.keepers ≠ parent.keepers ∨ config.servers ≠ parent.servers) →
      parent.generation.next = some config.generation) ∧
    (config.keepers = parent.keepers → config.servers = parent.servers →
      config.generation = parent.generation) := by
  obtain ⟨newConfig, hconfig, hnext, hsame, -, -, -, -⟩ := plan_fields h
  have hck : config.keepers = newConfig.keepers := by rw [hconfig]
  have hcs : config.servers = newConfig.servers := by rw [hconfig]
  rw [hck, hcs]
  refine ⟨fun hchanged => hnext ?_, fun hk hs => hsame ?_⟩
  · rcases hchanged with hchanged | hchanged <;>
      simp [ClickhouseClusterConfig.needsGenerationBump, hchanged]
  · simp [ClickhouseClusterConfig.needsGenerationBump, hk, hs]

/-- A parent whose last keeper id is `0` has no keepers. -/
theorem keepers_eq_empty_of_maxUsed_zero (hv : IdsValid parent.keepers parent.maxUsedKeeperId)
    (hzero : parent.maxUsedKeeperId = 0) (z : ZoneId) : z ∉ parent.keepers := by
  intro hz
  obtain ⟨id, hid⟩ := Option.isSome_iff_exists.mp (Finmap.lookup_isSome.mpr hz)
  have hpos := hv.pos hid
  have hle := hv.le_maxUsed hid
  rw [hzero] at hle
  exact absurd (lt_of_lt_of_le hpos hle) (lt_irrefl 0)

/-- **The keeper ids stay valid and fresh** while they do not wrap. -/
theorem plan_keeper_ids (h : plan parent inventory active = some (.ok config))
    (hv : IdsValid parent.keepers parent.maxUsedKeeperId)
    (hwrap : parent.maxUsedKeeperId.val + active.keepers.card < 2 ^ 64) :
    IdsValid config.keepers config.maxUsedKeeperId ∧
      Allocated parent.keepers config.keepers parent.maxUsedKeeperId config.maxUsedKeeperId := by
  obtain ⟨newConfig, hconfig, -, -, -, -, -, hkeepers⟩ := plan_fields h
  have hck : config.keepers = newConfig.keepers := by rw [hconfig]
  have hcm : config.maxUsedKeeperId = newConfig.maxUsedKeeperId := by rw [hconfig]
  rw [hck, hcm]
  generalize newConfig.keepers = keepers at hkeepers ⊢
  generalize newConfig.maxUsedKeeperId = maxUsed at hkeepers ⊢
  cases hkeepers with
  | unchanged => exact ⟨hv, Allocated.refl _ _⟩
  | remove _ => exact ⟨hv.of_sub Finmap.lookup_of_lookup_erase, Allocated.of_sub Finmap.lookup_of_lookup_erase⟩
  | add hnew hactive =>
    -- the new zone is active, so there is room for its id
    have hcard : 0 < active.keepers.card := Finset.card_pos.mpr ⟨_, hactive⟩
    have hnext : parent.maxUsedKeeperId.val + 1 < 2 ^ 64 := by omega
    exact ⟨hv.insert_next hnext hnew, Allocated.insert_next hnext _⟩
  | bootstrap _ hzero =>
    have hfresh : ∀ z ∈ active.keepers.ascending, z ∉ (planServers parent active).keepers := by
      intro z _
      rw [keepers_planServers]
      exact keepers_eq_empty_of_maxUsed_zero hv hzero z
    have hids := foldl_addKeeper_ids active.keepers.ascending (planServers parent active)
      (by rw [Finset.ascending_eq_sort]; exact Finset.sort_nodup _ _) hfresh (by simpa using hv)
      (by simpa using hwrap)
    simpa using hids

/-- **The server ids stay valid and fresh** while they do not wrap. -/
theorem plan_server_ids (h : plan parent inventory active = some (.ok config))
    (hv : IdsValid parent.servers parent.maxUsedServerId)
    (hwrap : parent.maxUsedServerId.val + active.servers.card < 2 ^ 64) :
    IdsValid config.servers config.maxUsedServerId ∧
      Allocated parent.servers config.servers parent.maxUsedServerId config.maxUsedServerId := by
  obtain ⟨newConfig, hconfig, -, -, hservers, hmax, -, -⟩ := plan_fields h
  have hcs : config.servers = newConfig.servers := by rw [hconfig]
  have hcm : config.maxUsedServerId = newConfig.maxUsedServerId := by rw [hconfig]
  rw [hcs, hcm, hservers, hmax]
  exact planServers_ids parent active hv hwrap

/-- **Keeper planning keeps ids fresh and changes at most one keeper, while no id wraps.** For a
    parent whose ids are valid and a plan that succeeds: (a) the ids stay valid and each new one
    is past the parent's last; (b) the servers are those of the active zones, a kept one with
    its id; (c) outside the bootstrap the keepers change by at most one entry; (d) the log index
    seen never goes back; (e) the generation moves on exactly when keepers or servers changed. -/
theorem plan_spec (h : plan parent inventory active = some (.ok config))
    (hkeepers : IdsValid parent.keepers parent.maxUsedKeeperId)
    (hservers : IdsValid parent.servers parent.maxUsedServerId)
    (hwrapKeepers : parent.maxUsedKeeperId.val + active.keepers.card < 2 ^ 64)
    (hwrapServers : parent.maxUsedServerId.val + active.servers.card < 2 ^ 64) :
    ((IdsValid config.keepers config.maxUsedKeeperId ∧
        Allocated parent.keepers config.keepers parent.maxUsedKeeperId config.maxUsedKeeperId) ∧
      (IdsValid config.servers config.maxUsedServerId ∧
        Allocated parent.servers config.servers parent.maxUsedServerId config.maxUsedServerId)) ∧
    ((∀ z, z ∈ config.servers ↔ z ∈ active.servers) ∧
      ∀ {z id}, parent.servers.lookup z = some id → z ∈ active.servers →
        config.servers.lookup z = some id) ∧
    ((inventory ≠ none ∨ parent.maxUsedKeeperId ≠ 0) →
      config.keepers = parent.keepers ∨ (∃ z ∈ parent.keepers, config.keepers = parent.keepers.erase z) ∨
        ∃ z, z ∉ parent.keepers ∧ ∃ id, config.keepers = parent.keepers.insert z id) ∧
    parent.highestSeenKeeperLeaderCommittedLogIndex ≤ config.highestSeenKeeperLeaderCommittedLogIndex ∧
    (((config.keepers ≠ parent.keepers ∨ config.servers ≠ parent.servers) →
        parent.generation.next = some config.generation) ∧
      (config.keepers = parent.keepers → config.servers = parent.servers →
        config.generation = parent.generation)) :=
  ⟨⟨plan_keeper_ids h hkeepers hwrapKeepers, plan_server_ids h hservers hwrapServers⟩,
    plan_servers h, plan_keepers h, plan_highestSeen h, plan_generation h⟩

end PlanSpec

/-- A map without entries has valid ids. -/
theorem IdsValid.empty (maxUsed : Fin (2 ^ 64)) : IdsValid ∅ maxUsed where
  injective hz := by simp at hz
  pos hz := by simp at hz
  le_maxUsed hz := by simp at hz

end ClickhouseAllocator

end Omicron.Planning
