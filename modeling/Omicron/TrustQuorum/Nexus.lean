import Omicron.TrustQuorum.Validators

/-!
# Trust quorum: the Nexus of the test harness

`nexus.rs` of the protocol's test utilities, and the Nexus half of their `state.rs`: the model of
Nexus that drives a cluster in the protocol's property tests. Nexus keeps one `NexusConfig` per
epoch. It asks a coordinator to prepare the latest one, hears from it which members acknowledged,
commits once enough members prepared, collects commit acknowledgements, and aborts a
configuration whose coordinator went away.

* `NexusOp`, `NexusConfig`, `NexusReply`, `NexusState` -- the configurations are keyed by their
  epoch (`IdOrdMap<NexusConfig>`), which the state carries as a field;
* `latestConfig`, `lastCommittedConfig`, `needsUpgradeFromLrtq`, `nextEpoch` -- what Nexus reads,
  with `latestConfig_eq_some` and `lastCommittedConfig_eq_some`: the configuration of the largest
  epoch, and the committed one of the largest epoch;
* `insertUnique`, `abortConfiguration`, `deliverNexusReply` -- what Nexus does, each only ever
  storing a configuration under its epoch (`store`);
* `Extends` -- what none of them undoes: every epoch keeps its coordinator, its prepared members
  only grow and a commit stays. An abort undoes nothing because it only ever hits a configuration
  that is still preparing; `deliverNexusReply_isCommitted` says that a new commit is always of
  the latest epoch.
-/

set_option linter.unusedSectionVars false

namespace Omicron.TrustQuorum

/-- `NexusOp`: what Nexus is doing with a configuration. -/
inductive NexusOp where
  | committed
  | aborted
  | preparing
  | lrtqCommitted
  deriving DecidableEq

/-- `NexusConfig`: a configuration as Nexus sees it. `threshold` is `K`, and Nexus commits once
    `K + Z` members prepared, `Z` being `commitCrashTolerance`. -/
structure NexusConfig (ι : Type) where
  op : NexusOp
  epoch : Nat
  lastCommittedEpoch : Option Nat
  coordinator : ι
  members : Finset ι
  threshold : Nat
  commitCrashTolerance : Nat
  preparedMembers : Finset ι
  committedMembers : Finset ι
  deriving DecidableEq

namespace NexusConfig

variable {ι : Type} [LinearOrder ι]

/-- `NexusConfig::new`: a configuration to prepare, which tolerates more crashes the more members
    it has beyond its threshold; `none` where `members.len() - threshold` underflows. -/
def new (epoch : Nat) (lastCommittedEpoch : Option Nat) (coordinator : ι) (members : Finset ι)
    (threshold : Nat) : Option (NexusConfig ι) :=
  if members.card < threshold then none
  else
    let spare := members.card - threshold
    let commitCrashTolerance :=
      if spare ≤ 1 then 0 else if spare ≤ 4 then 1 else if spare ≤ 7 then 2 else 3
    some ⟨.preparing, epoch, lastCommittedEpoch, coordinator, members, threshold,
      commitCrashTolerance, ∅, ∅⟩

/-- `NexusConfig::new_lrtq`: the LRTQ configuration a rack starts from, committed from the start
    at epoch 1, with a majority threshold. -/
def newLrtq (coordinator : ι) (members : Finset ι) : NexusConfig ι :=
  ⟨.lrtqCommitted, 1, none, coordinator, members, members.card / 2 + 1, 0, ∅, ∅⟩

/-- `to_reconfigure_msg`. -/
def toReconfigureMsg (c : NexusConfig ι) (rackId : RackUuid) : ReconfigureMsg ι :=
  ⟨rackId, c.epoch, c.lastCommittedEpoch, c.members, c.threshold⟩

/-- `to_lrtq_upgrade_msg`. -/
def toLrtqUpgradeMsg (c : NexusConfig ι) (rackId : RackUuid) : LrtqUpgradeMsg ι :=
  ⟨rackId, c.epoch, c.members, c.threshold⟩

/-- `can_commit`: at least `K + Z` prepared members. -/
def canCommit (c : NexusConfig ι) : Bool :=
  decide (c.threshold + c.commitCrashTolerance ≤ c.preparedMembers.card)

/-- Nexus's configurations start out preparing, with nobody prepared or committed. -/
theorem new_spec {epoch : Nat} {last : Option Nat} {coordinator : ι} {members : Finset ι}
    {threshold : Nat} {c : NexusConfig ι}
    (h : new epoch last coordinator members threshold = some c) :
    c.op = .preparing ∧ c.epoch = epoch ∧ c.lastCommittedEpoch = last ∧
      c.coordinator = coordinator ∧ c.members = members ∧ c.threshold = threshold ∧
      c.preparedMembers = ∅ ∧ c.committedMembers = ∅ := by
  unfold new at h
  split_ifs at h
  simp only [Option.some.injEq] at h
  subst h
  exact ⟨rfl, rfl, rfl, rfl, rfl, rfl, rfl, rfl⟩

/-- Six members over a threshold of three tolerate one crash: Nexus commits on four prepares. -/
example : ((new 2 (some 1) 0 (Finset.range 6) 3).map fun c => c.commitCrashTolerance) = some 1 := by
  decide

end NexusConfig

/-- `NexusReply`: what a node's answer to Nexus carries back over the underlay network. -/
inductive NexusReply (ι : Type) where
  | ackedPreparesFromCoordinator (epoch : Nat) (acks : Finset ι)
  | commitAck (sender : ι) (epoch : Nat)
  deriving DecidableEq

/-- `NexusState`: Nexus's configurations, each under its own epoch. -/
structure NexusState (ι : Type) where
  rackId : RackUuid
  configs : Finmap fun _ : Nat => NexusConfig ι
  keyed : ∀ e c, configs.lookup e = some c → c.epoch = e

namespace NexusState

variable {ι : Type} [LinearOrder ι]

/-! ## 1. What Nexus reads -/

/-- `NexusState::new`: no configuration, and the nil rack id. -/
def new : NexusState ι := ⟨List.replicate 16 0, ∅, fun _ _ h => by simp at h⟩

/-- `latest_config`: the last configuration in epoch order; `none` where the `expect` panics on a
    Nexus with no configuration. -/
def latestConfig (s : NexusState ι) : Option (NexusConfig ι) :=
  s.configs.sortedValues.getLast?

/-- `last_committed_config`: the scan over every configuration in epoch order, keeping the last
    committed one. -/
def lastCommittedConfig (s : NexusState ι) : Option (NexusConfig ι) :=
  s.configs.sortedValues.foldl (fun found c => if c.op = .committed then some c else found) none

/-- `needs_upgrade_from_lrtq`: nothing committed yet, and epoch 1 is the LRTQ configuration. -/
def needsUpgradeFromLrtq (s : NexusState ι) : Bool :=
  s.lastCommittedConfig.isNone &&
    ((s.configs.lookup 1).map fun c => decide (c.op = .lrtqCommitted)).getD false

/-- The epoch of the next configuration: `latest_config().epoch.next()`, and `Epoch(1)` for the
    initial configuration. -/
def nextEpoch (s : NexusState ι) : Nat :=
  (s.latestConfig.map (·.epoch + 1)).getD 1

/-- Nexus has committed epoch `e`. -/
def IsCommitted (s : NexusState ι) (e : Nat) : Prop :=
  ∃ c, s.configs.lookup e = some c ∧ c.op = .committed

/-- The latest configuration is stored under its epoch, the largest. -/
theorem latestConfig_eq_some {s : NexusState ι} {c : NexusConfig ι} (h : s.latestConfig = some c) :
    s.configs.lookup c.epoch = some c ∧ ∀ e ∈ s.configs, e ≤ c.epoch :=
  Finmap.getLast?_sortedValues_eq_some s.keyed h

theorem latestConfig_isSome {s : NexusState ι} {e : Nat} (he : e ∈ s.configs) :
    s.latestConfig.isSome :=
  Finmap.getLast?_sortedValues_isSome he

/-- Every epoch Nexus knows is at most the latest. -/
theorem le_latest {s : NexusState ι} {e : Nat} {c : NexusConfig ι}
    (he : s.configs.lookup e = some c) :
    ∃ latest, s.latestConfig = some latest ∧ e ≤ latest.epoch := by
  have hmem : e ∈ s.configs := Finmap.mem_of_lookup_eq_some he
  obtain ⟨latest, hl⟩ := Option.isSome_iff_exists.mp (latestConfig_isSome hmem)
  exact ⟨latest, hl, (latestConfig_eq_some hl).2 e hmem⟩

/-- The next epoch is beyond every epoch Nexus knows. -/
theorem lt_nextEpoch {s : NexusState ι} {e : Nat} (he : e ∈ s.configs) : e < s.nextEpoch := by
  obtain ⟨c, hc⟩ := Finmap.mem_iff.mp he
  obtain ⟨latest, hl, hle⟩ := le_latest hc
  simp only [nextEpoch, hl, Option.map_some, Option.getD_some]
  omega

theorem nextEpoch_not_mem (s : NexusState ι) : s.nextEpoch ∉ s.configs :=
  fun h => lt_irrefl _ (lt_nextEpoch h)

/-- The last committed configuration: committed, and of the largest committed epoch. -/
theorem lastCommittedConfig_eq_some {s : NexusState ι} {c : NexusConfig ι}
    (h : s.lastCommittedConfig = some c) :
    s.configs.lookup c.epoch = some c ∧ c.op = .committed ∧ ∀ e, s.IsCommitted e → e ≤ c.epoch := by
  obtain ⟨hmem, hop, hmax⟩ :=
    List.foldl_keepLast_eq_some (Finmap.pairwise_sortedValues s.keyed) h
  obtain ⟨e, he⟩ := Finmap.mem_sortedValues.mp hmem
  refine ⟨s.keyed e c he ▸ he, hop, ?_⟩
  rintro e' ⟨c', hc', hop'⟩
  have hle := hmax c' (Finmap.mem_sortedValues.mpr ⟨e', hc'⟩) hop'
  rwa [s.keyed e' c' hc'] at hle

theorem lastCommittedConfig_eq_none {s : NexusState ι} :
    s.lastCommittedConfig = none ↔ ∀ e, ¬ s.IsCommitted e := by
  unfold lastCommittedConfig
  rw [List.foldl_keepLast_eq_none]
  constructor
  · rintro h e ⟨c, hc, hop⟩
    exact h c (Finmap.mem_sortedValues.mpr ⟨e, hc⟩) hop
  · intro h c hc hop
    obtain ⟨e, he⟩ := Finmap.mem_sortedValues.mp hc
    exact h e ⟨c, he, hop⟩

/-- Every committed epoch is at most the last committed configuration's: the epoch Nexus puts in
    its next `ReconfigureMsg`. -/
theorem le_lastCommitted {s : NexusState ι} {e : Nat} (he : s.IsCommitted e) :
    ∃ c, s.lastCommittedConfig = some c ∧ e ≤ c.epoch := by
  cases hc : s.lastCommittedConfig with
  | none => exact absurd he (lastCommittedConfig_eq_none.mp hc e)
  | some c => exact ⟨c, rfl, (lastCommittedConfig_eq_some hc).2.2 e he⟩

/-- Before an upgrade from LRTQ nothing is committed. -/
theorem not_isCommitted_of_needsUpgradeFromLrtq {s : NexusState ι}
    (h : s.needsUpgradeFromLrtq = true) (e : Nat) : ¬ s.IsCommitted e := by
  unfold needsUpgradeFromLrtq at h
  rw [Bool.and_eq_true, Option.isNone_iff_eq_none] at h
  exact lastCommittedConfig_eq_none.mp h.1 e

/-! ## 2. What Nexus does -/

/-- A configuration stored under its own epoch, as `insert_unique` and the `RefMut` of
    `latest_config_mut` store it. -/
def store (s : NexusState ι) (c : NexusConfig ι) : NexusState ι :=
  ⟨s.rackId, s.configs.insert c.epoch c, Finmap.keyed_insert s.keyed c⟩

/-- `configs.insert_unique(config).expect("new config")`. -/
def insertUnique (s : NexusState ι) (c : NexusConfig ι) : Option (NexusState ι) :=
  if c.epoch ∈ s.configs then none else some (s.store c)

/-- `apply_event_abort_configuration`: the latest configuration is aborted; `none` where the
    `assert_eq!` on its epoch fails. -/
def abortConfiguration (s : NexusState ι) (epoch : Nat) : Option (NexusState ι) := do
  let latest ← s.latestConfig
  if epoch = latest.epoch then pure (s.store { latest with op := .aborted }) else none

/-- `apply_event_deliver_nexus_reply`: acknowledgements for the latest epoch join its prepared
    members, and Nexus commits it (`nexus_commit`) once it can; a commit acknowledgement for the
    latest epoch joins its committed members. Replies for another epoch are dropped. -/
def deliverNexusReply (s : NexusState ι) (reply : NexusReply ι) : Option (NexusState ι) := do
  let latest ← s.latestConfig
  match reply with
  | .ackedPreparesFromCoordinator epoch acks =>
    if epoch = latest.epoch then
      let latest := { latest with preparedMembers := latest.preparedMembers ∪ acks }
      if latest.canCommit then pure (s.store { latest with op := .committed })
      else pure (s.store latest)
    else pure s
  | .commitAck sender epoch =>
    if latest.epoch = epoch then
      pure (s.store { latest with committedMembers := insert sender latest.committedMembers })
    else pure s

@[simp] theorem store_rackId (s : NexusState ι) (c : NexusConfig ι) :
    (s.store c).rackId = s.rackId := rfl

@[simp] theorem store_lookup_self (s : NexusState ι) (c : NexusConfig ι) :
    (s.store c).configs.lookup c.epoch = some c :=
  Finmap.lookup_insert _

theorem store_lookup_of_ne (s : NexusState ι) (c : NexusConfig ι) {e : Nat} (he : e ≠ c.epoch) :
    (s.store c).configs.lookup e = s.configs.lookup e :=
  Finmap.lookup_insert_of_ne _ he

/-- After a store, the stored configuration or what was there. -/
theorem store_lookup_eq_some {s : NexusState ι} {c c' : NexusConfig ι} {e : Nat}
    (h : (s.store c).configs.lookup e = some c') :
    (e = c.epoch ∧ c' = c) ∨ (e ≠ c.epoch ∧ s.configs.lookup e = some c') := by
  by_cases he : e = c.epoch
  · subst he
    rw [store_lookup_self, Option.some.injEq] at h
    exact .inl ⟨rfl, h.symm⟩
  · rw [store_lookup_of_ne s c he] at h
    exact .inr ⟨he, h⟩

/-- Storing a configuration Nexus has not committed commits nothing new. -/
theorem isCommitted_of_store {s : NexusState ι} {c : NexusConfig ι} (hop : c.op ≠ .committed)
    {e : Nat} (h : (s.store c).IsCommitted e) : s.IsCommitted e := by
  obtain ⟨nc, hnc, hcommit⟩ := h
  rcases store_lookup_eq_some hnc with ⟨-, rfl⟩ | ⟨-, hold⟩
  · exact absurd hcommit hop
  · exact ⟨nc, hold, hcommit⟩

/-- **`insert_unique`**: a new epoch, stored. -/
theorem insertUnique_spec {s s' : NexusState ι} {c : NexusConfig ι}
    (h : s.insertUnique c = some s') : c.epoch ∉ s.configs ∧ s' = s.store c := by
  unfold insertUnique at h
  split_ifs at h with hc
  exact ⟨hc, (Option.some.inj h).symm⟩

/-- **`apply_event_abort_configuration`**: the latest configuration, aborted. -/
theorem abortConfiguration_spec {s s' : NexusState ι} {epoch : Nat}
    (h : s.abortConfiguration epoch = some s') :
    ∃ latest, s.latestConfig = some latest ∧ epoch = latest.epoch ∧
      s' = s.store { latest with op := .aborted } := by
  unfold abortConfiguration at h
  simp only [Option.bind_eq_bind, Option.bind_eq_some_iff] at h
  obtain ⟨latest, hl, h⟩ := h
  split_ifs at h with he
  exact ⟨latest, hl, he, (Option.some.inj h).symm⟩

/-- **`apply_event_deliver_nexus_reply`**: nothing, or the latest configuration stored again with
    the same epoch, coordinator and members. Acknowledgements of prepares are only ever added, and
    only those the reply carries for that epoch; the operation stays, or becomes a commit. -/
theorem deliverNexusReply_spec {s s' : NexusState ι} {reply : NexusReply ι}
    (h : s.deliverNexusReply reply = some s') :
    s' = s ∨ ∃ latest latest', s.latestConfig = some latest ∧ s' = s.store latest' ∧
      latest'.epoch = latest.epoch ∧ latest'.coordinator = latest.coordinator ∧
      latest'.members = latest.members ∧
      (latest'.op = latest.op ∨ latest'.op = .committed) ∧
      latest.preparedMembers ⊆ latest'.preparedMembers ∧
      ∀ a ∈ latest'.preparedMembers, a ∈ latest.preparedMembers ∨
        ∃ acks, reply = .ackedPreparesFromCoordinator latest.epoch acks ∧ a ∈ acks := by
  unfold deliverNexusReply at h
  simp only [Option.bind_eq_bind, Option.bind_eq_some_iff] at h
  obtain ⟨latest, hl, h⟩ := h
  split at h
  · rename_i epoch acks
    split_ifs at h with he hcan
    -- the acknowledgements join, with or without the commit
    all_goals simp only [Option.pure_def, Option.some.injEq] at h
    all_goals first
      | exact .inl h.symm
      | refine .inr ⟨latest, _, hl, h.symm, rfl, rfl, rfl, ?_, Finset.subset_union_left, ?_⟩
    all_goals first
      | exact .inr rfl
      | exact .inl rfl
      | intro a ha
        rcases Finset.mem_union.mp ha with ha | ha
        · exact .inl ha
        · exact .inr ⟨acks, by rw [he], ha⟩
  · split_ifs at h with he
    all_goals simp only [Option.pure_def, Option.some.injEq] at h
    · exact .inr ⟨latest, _, hl, h.symm, rfl, rfl, rfl, .inl rfl, subset_rfl,
        fun a ha => .inl ha⟩
    · exact .inl h.symm

/-! ## 3. What Nexus never undoes -/

/-- `s'` extends `s`: the rack id stays; every epoch stays, with its coordinator and members, and
    its prepared members only grow; a commit stays. -/
structure Extends (s s' : NexusState ι) : Prop where
  rackId : s'.rackId = s.rackId
  configs : ∀ e c, s.configs.lookup e = some c → ∃ c', s'.configs.lookup e = some c' ∧
    c'.coordinator = c.coordinator ∧ c'.members = c.members ∧
    c.preparedMembers ⊆ c'.preparedMembers
  committed : ∀ e, s.IsCommitted e → s'.IsCommitted e

namespace Extends

theorem refl (s : NexusState ι) : Extends s s :=
  ⟨rfl, fun _ c h => ⟨c, h, rfl, rfl, subset_rfl⟩, fun _ h => h⟩

/-- Storing a new epoch, or the latest one again with its coordinator and members, and without
    undoing its acknowledgements or its commit, extends. -/
theorem store {s : NexusState ι} {c : NexusConfig ι}
    (hc : ∀ old, s.configs.lookup c.epoch = some old → c.coordinator = old.coordinator ∧
      c.members = old.members ∧ old.preparedMembers ⊆ c.preparedMembers ∧
      (old.op = .committed → c.op = .committed)) :
    Extends s (s.store c) := by
  refine ⟨rfl, fun e old h => ?_, ?_⟩
  · by_cases he : e = c.epoch
    · subst he
      obtain ⟨h1, h2, h3, -⟩ := hc old h
      exact ⟨c, store_lookup_self s c, h1, h2, h3⟩
    · exact ⟨old, by rw [store_lookup_of_ne s c he]; exact h, rfl, rfl, subset_rfl⟩
  · rintro e ⟨old, h, hop⟩
    by_cases he : e = c.epoch
    · subst he
      exact ⟨c, store_lookup_self s c, (hc old h).2.2.2 hop⟩
    · exact ⟨old, by rw [store_lookup_of_ne s c he]; exact h, hop⟩

theorem insertUnique {s s' : NexusState ι} {c : NexusConfig ι} (h : s.insertUnique c = some s') :
    Extends s s' := by
  obtain ⟨hfresh, rfl⟩ := insertUnique_spec h
  exact store fun old hold => absurd (Finmap.mem_of_lookup_eq_some hold) hfresh

/-- An abort undoes nothing, since Nexus only aborts a configuration it has not committed. -/
theorem abortConfiguration {s s' : NexusState ι} {epoch : Nat}
    (h : s.abortConfiguration epoch = some s')
    (hop : ∀ latest, s.latestConfig = some latest → latest.op ≠ .committed) :
    Extends s s' := by
  obtain ⟨latest, hl, -, rfl⟩ := abortConfiguration_spec h
  refine store fun old hold => ?_
  rw [(latestConfig_eq_some hl).1, Option.some.injEq] at hold
  subst hold
  exact ⟨rfl, rfl, subset_rfl, fun hc => absurd hc (hop _ hl)⟩

theorem deliverNexusReply {s s' : NexusState ι} {reply : NexusReply ι}
    (h : s.deliverNexusReply reply = some s') : Extends s s' := by
  rcases deliverNexusReply_spec h with rfl | ⟨latest, latest', hl, rfl, hep, hco, hme, hop, hpr, -⟩
  · exact refl _
  · refine store fun old hold => ?_
    rw [hep, (latestConfig_eq_some hl).1, Option.some.injEq] at hold
    subst hold
    refine ⟨hco, hme, hpr, fun hc => ?_⟩
    rcases hop with e | e
    · rw [e, hc]
    · exact e

end Extends

/-- A commit a reply brings is of the latest epoch. -/
theorem deliverNexusReply_isCommitted {s s' : NexusState ι} {reply : NexusReply ι}
    (h : s.deliverNexusReply reply = some s') {e : Nat} (he : s'.IsCommitted e) :
    s.IsCommitted e ∨ ∃ latest, s.latestConfig = some latest ∧ e = latest.epoch := by
  rcases deliverNexusReply_spec h with rfl | ⟨latest, latest', hl, rfl, hep, -, -, -, -, -⟩
  · exact .inl he
  · obtain ⟨c, hc, hop⟩ := he
    rcases store_lookup_eq_some hc with ⟨rfl, -⟩ | ⟨-, hold⟩
    · exact .inr ⟨latest, hl, hep⟩
    · exact .inl ⟨c, hold, hop⟩

end NexusState

end Omicron.TrustQuorum
