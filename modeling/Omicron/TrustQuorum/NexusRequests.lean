import Omicron.TrustQuorum.ClusterSafety

/-!
# Trust quorum: requests from Nexus that fail, and requests that are repeated

The four calls Nexus makes on a node -- `commit_configuration`, `prepare_and_commit`,
`coordinate_reconfiguration`, `coordinate_upgrade_from_lrtq` -- either succeed or fail without
a trace:

* `newConfiguration_isOk` -- the size checks of the validators (3 to 32 members, a threshold of
  2 to 31 below the number of members) are all `new_configuration` needs: a validated request
  always gets its configuration, so the key share computer the two coordinating calls cancel
  before starting a coordinator is only ever cancelled on success;
* `nexusRequests_atomic` -- a call that returns an error leaves the node and its context (its
  persistent state, its queue, its connections, its alarms) exactly as they were.

The documentation of `ValidatedReconfigureMsg::new` promises that a repeated request is
recognised as idempotent. `coordinateReconfiguration_repeat_refused` shows where that fails: on
a node with no committed configuration, the first request saves the coordinator's configuration
at once, and `check_epoch` then refuses the repetition before `check_existing_coordination` can
recognise it.
-/

set_option linter.unusedSectionVars false

namespace Omicron.TrustQuorum

open Omicron.Gfss NodeCtx

variable {ι : Type} [LinearOrder ι] {P : Primitives}

/-! ## 1. A validated request gets its configuration -/

/-- `ValidThreshold::new` accepts a threshold of at least two and at most the number of
    shares. -/
theorem ValidThreshold.new_isOk {n k : UInt8} (hk : 2 ≤ k.toNat) (hn : k.toNat ≤ n.toNat) :
    ∃ t, ValidThreshold.new n k = .ok t := by
  have hk' : ¬ k < 2 := fun h => by
    have := UInt8.lt_iff_toNat_lt.mp h
    simp only [UInt8.reduceToNat] at this
    omega
  have hn' : ¬ n < k := fun h => by
    have := UInt8.lt_iff_toNat_lt.mp h
    omega
  unfold ValidThreshold.new
  simp only [hk', hn', dite_false, if_false]
  exact ⟨_, rfl⟩

variable (P) in
/-- **`new_configuration` cannot fail on a request that passed the size checks**: at most 32
    members fit the `u8` share count, and the threshold is one `ValidThreshold::new` accepts. -/
theorem newConfiguration_isOk {params : NewConfigParams ι}
    (hsizes : checkSizes params.members.card params.threshold = none) (secret : RackSecret)
    (rng : Nat → UInt8) : ∃ r, newConfiguration P params secret rng = .ok r := by
  obtain ⟨hlt, h3, h32, h2, h31⟩ := (checkSizes_eq_none_iff _ _).mp hsizes
  have hcard : ¬ params.members.card > 255 := by omega
  obtain ⟨t, ht⟩ := ValidThreshold.new_isOk (n := params.members.card.toUInt8)
    (k := params.threshold.toUInt8)
    (by rw [UInt8.toNat_ofNat', Nat.mod_eq_of_lt (by omega)]; omega)
    (by rw [UInt8.toNat_ofNat', UInt8.toNat_ofNat', Nat.mod_eq_of_lt (by omega),
      Nat.mod_eq_of_lt (by omega)]; omega)
  unfold newConfiguration RackSecret.split splitSecretImpl
  simp only [hcard, if_false, ht, bind, Except.bind, pure, Except.pure]
  exact ⟨_, rfl⟩

namespace CoordinatorState

theorem newUninitialized_ne_error {msg : ValidatedReconfigureMsg ι}
    (hsizes : checkSizes msg.members.card msg.threshold = none) (rnd : ConfigRandomness)
    (e : ReconfigurationError ι) : newUninitialized P msg rnd ≠ some (.error e) := by
  obtain ⟨r, hr⟩ := newConfiguration_isOk P
    (show checkSizes msg.toParams.members.card msg.toParams.threshold = none from hsizes) rnd.secret
    rnd.rng
  unfold newUninitialized
  rw [hr]
  intro h
  simp only [Option.bind_eq_bind, Option.bind_eq_some_iff, Option.pure_def, Option.some.injEq,
    reduceCtorEq, and_false, exists_false] at h

theorem newReconfiguration_isOk {msg : ValidatedReconfigureMsg ι}
    (hsizes : checkSizes msg.members.card msg.threshold = none) (config : Configuration ι)
    (share : Share) (rnd : ConfigRandomness) :
    ∃ cs, newReconfiguration P msg config share rnd = .ok cs := by
  obtain ⟨r, hr⟩ := newConfiguration_isOk P
    (show checkSizes msg.toParams.members.card msg.toParams.threshold = none from hsizes) rnd.secret
    rnd.rng
  unfold newReconfiguration
  rw [hr]
  exact ⟨_, rfl⟩

theorem newUpgradeFromLrtq_ne_error {ctx : NodeCtx ι} {msg : ValidatedLrtqUpgradeMsg ι}
    (hsizes : checkSizes msg.members.card msg.threshold = none) (rnd : ConfigRandomness)
    (e : ConfigurationError) : newUpgradeFromLrtq P ctx msg rnd ≠ some (.error e) := by
  obtain ⟨r, hr⟩ := newConfiguration_isOk P
    (show checkSizes msg.toParams.members.card msg.toParams.threshold = none from hsizes) rnd.secret
    rnd.rng
  unfold newUpgradeFromLrtq
  rw [hr]
  intro h
  simp only [Option.bind_eq_bind, Option.bind_eq_some_iff, Option.pure_def, Option.some.injEq,
    reduceCtorEq, and_false, exists_false] at h

end CoordinatorState

/-! ## 2. Failures are atomic -/

namespace Node

variable {n n' : Node ι} {ctx ctx' : NodeCtx ι}

/-- `set_coordinator_state` on a validated request never returns an error. -/
theorem setCoordinatorState_ok {msg : ValidatedReconfigureMsg ι} {rnd : ConfigRandomness}
    {r : Except (ReconfigurationError ι) Unit}
    (hsizes : checkSizes msg.members.card msg.threshold = none)
    (h : n.setCoordinatorState P ctx msg rnd = some (r, n', ctx')) : r = .ok () := by
  unfold setCoordinatorState at h
  split_ifs at h
  · simp only [Option.bind_eq_bind, Option.bind_eq_some_iff] at h
    obtain ⟨res, hres, h⟩ := h
    split at h
    · exact absurd hres (CoordinatorState.newUninitialized_ne_error hsizes rnd _)
    · split_ifs at h
      simp only [Option.pure_def, Option.some.injEq, Prod.mk.injEq] at h
      exact h.1.symm
  · simp only [Option.bind_eq_bind, Option.bind_eq_some_iff] at h
    obtain ⟨latest, -, ⟨config, share⟩, -, h⟩ := h
    obtain ⟨cs, hcs⟩ := CoordinatorState.newReconfiguration_isOk (P := P) hsizes config share rnd
    rw [hcs] at h
    simp only [Option.pure_def, Option.some.injEq, Prod.mk.injEq] at h
    exact h.1.symm

/-- The `expect("committed configuration exists")` of `set_coordinator_state`: a node that
    accepted a request and is not uninitialized has a latest committed configuration. -/
theorem latestCommittedConfigAndShare_ne_some_none {pid : ι} {msg : ReconfigureMsg ι}
    {ps : PersistentState ι} {last : Option (ValidatedReconfigureMsg ι)}
    {v : ValidatedReconfigureMsg ι}
    (hv : ValidatedReconfigureMsg.new pid msg ps.summary last = .ok (some v))
    (hinit : ps.isUninitialized = false) : ps.latestCommittedConfigAndShare ≠ some none := by
  obtain ⟨-, hlrtq, -⟩ := ValidatedReconfigureMsg.new_eq_ok_some hv
  -- neither LRTQ-only nor uninitialized: a commit exists
  obtain ⟨e, he⟩ : ∃ e, ps.latestCommittedEpoch = some e := by
    cases hl : ps.latestCommittedEpoch with
    | some e => exact ⟨e, rfl⟩
    | none =>
      simp only [PersistentState.summary, PersistentState.isLrtqOnly, hl, Option.isNone_none,
        Bool.and_true] at hlrtq
      simp only [PersistentState.isUninitialized, hl, Option.isNone_none, Bool.and_true,
        Option.isNone_eq_false_iff, hlrtq, Bool.false_eq_true] at hinit
  unfold PersistentState.latestCommittedConfigAndShare
  rw [he]
  intro h
  simp only [Option.bind_eq_bind, Option.bind_eq_some_iff, Option.pure_def, Option.some.injEq,
    reduceCtorEq, and_false, exists_false] at h

theorem commitConfiguration_error {rackId : RackUuid} {epoch : Nat} {e : CommitError ι}
    (h : n.commitConfiguration ctx rackId epoch = some (.error e, n', ctx')) :
    n' = n ∧ ctx' = ctx := by
  -- the expungement and rack id checks return before any change, and a commit reports success
  unfold commitConfiguration at h
  dsimp only at h
  split at h
  · simp only [Option.some.injEq, Prod.mk.injEq] at h
    exact ⟨h.2.1.symm, h.2.2.symm⟩
  have hchecked : commitConfiguration.commitChecked n ctx epoch = some (.error e, n', ctx') →
      n' = n ∧ ctx' = ctx := by
    intro hc
    unfold commitConfiguration.commitChecked at hc
    simp only [Option.bind_eq_bind, Option.bind_eq_some_iff] at hc
    obtain ⟨latest, -, hc⟩ := hc
    split_ifs at hc
    all_goals
      simp only [Option.pure_def, Option.some.injEq, Prod.mk.injEq, reduceCtorEq,
        false_and] at hc
    exact ⟨hc.2.1.symm, hc.2.2.symm⟩
  split at h
  · split_ifs at h
    · simp only [Option.some.injEq, Prod.mk.injEq] at h
      exact ⟨h.2.1.symm, h.2.2.symm⟩
    · exact hchecked h
  · exact hchecked h

theorem prepareAndCommit_error {config : Configuration ι} {e : PrepareAndCommitError ι}
    (h : n.prepareAndCommit ctx config = some (.error e, n', ctx')) : n' = n ∧ ctx' = ctx := by
  -- the commit itself always reports success
  have hcommit : (n.handleCommitAdvance ctx .nexus config).map
      (fun (p : Node ι × NodeCtx ι) => ((.ok () : Except (PrepareAndCommitError ι) Unit), p.1, p.2))
        ≠ some (.error e, n', ctx') := by
    intro hm
    obtain ⟨_, -, he⟩ := Option.map_eq_some_iff.mp hm
    simp only [Prod.mk.injEq, reduceCtorEq, false_and] at he
  unfold prepareAndCommit at h
  dsimp only at h
  split at h
  · simp only [Option.some.injEq, Prod.mk.injEq] at h
    exact ⟨h.2.1.symm, h.2.2.symm⟩
  split at h
  · split_ifs at h
    · simp only [Option.some.injEq, Prod.mk.injEq] at h
      exact ⟨h.2.1.symm, h.2.2.symm⟩
    · exact absurd h hcommit
  · exact absurd h hcommit

theorem coordinateReconfiguration_error {msg : ReconfigureMsg ι} {rnd : ConfigRandomness}
    {e : ReconfigurationError ι}
    (h : n.coordinateReconfiguration P ctx msg rnd = some (.error e, n', ctx')) :
    n' = n ∧ ctx' = ctx := by
  unfold coordinateReconfiguration at h
  dsimp only at h
  -- an upgrade in progress and a refused request return before any change
  split at h
  · simp only [Option.some.injEq, Prod.mk.injEq] at h
    exact ⟨h.2.1.symm, h.2.2.symm⟩
  split at h
  · simp only [Option.some.injEq, Prod.mk.injEq] at h
    exact ⟨h.2.1.symm, h.2.2.symm⟩
  · simp only [Option.some.injEq, Prod.mk.injEq, reduceCtorEq, false_and] at h
  -- a validated request: the coordinator always starts
  rename_i v hv
  obtain ⟨rfl, -, -, hsizes, -⟩ := ValidatedReconfigureMsg.new_eq_ok_some hv
  simp only [Option.bind_eq_bind, Option.bind_eq_some_iff] at h
  obtain ⟨⟨r₁, n₁, ctx₁⟩, hset, h⟩ := h
  rw [setCoordinatorState_ok hsizes hset] at h
  simp only [Option.bind_eq_some_iff, Option.pure_def, Option.some.injEq, Prod.mk.injEq,
    reduceCtorEq, false_and, and_false, exists_false] at h

theorem coordinateUpgradeFromLrtq_error {msg : LrtqUpgradeMsg ι} {rnd : ConfigRandomness}
    {e : LrtqUpgradeError ι}
    (h : n.coordinateUpgradeFromLrtq P ctx msg rnd = some (.error e, n', ctx')) :
    n' = n ∧ ctx' = ctx := by
  unfold coordinateUpgradeFromLrtq at h
  split at h
  · simp only [Option.some.injEq, Prod.mk.injEq] at h
    exact ⟨h.2.1.symm, h.2.2.symm⟩
  -- a validated request: the coordinator always starts
  rename_i v hv
  obtain ⟨rfl, -, -, -, -, -, hsizes, -⟩ := ValidatedLrtqUpgradeMsg.new_eq_ok hv
  simp only [Option.bind_eq_bind, Option.bind_eq_some_iff] at h
  obtain ⟨res, hres, h⟩ := h
  split at h
  · exact absurd hres (CoordinatorState.newUpgradeFromLrtq_ne_error hsizes rnd _)
  · simp only [Option.bind_eq_some_iff, Option.pure_def, Option.some.injEq, Prod.mk.injEq,
      reduceCtorEq, false_and, and_false, exists_false] at h

end Node

variable (P) in
/-- **Requests from Nexus fail atomically.** A `commit_configuration`, `prepare_and_commit`,
    `coordinate_reconfiguration` or `coordinate_upgrade_from_lrtq` that returns an error leaves
    the node's roles and its whole context unchanged: persistent state, queued envelopes,
    connections and alarms. It rests on `new_configuration` succeeding for every request the
    validators accept, and on the `expect` of `set_coordinator_state` holding for them. -/
theorem nexusRequests_atomic :
    (∀ (n n' : Node ι) (ctx ctx' : NodeCtx ι) (rackId : RackUuid) (epoch : Nat)
      (e : CommitError ι), n.commitConfiguration ctx rackId epoch = some (.error e, n', ctx') →
        n' = n ∧ ctx' = ctx) ∧
    (∀ (n n' : Node ι) (ctx ctx' : NodeCtx ι) (config : Configuration ι)
      (e : PrepareAndCommitError ι), n.prepareAndCommit ctx config = some (.error e, n', ctx') →
        n' = n ∧ ctx' = ctx) ∧
    (∀ (n n' : Node ι) (ctx ctx' : NodeCtx ι) (msg : ReconfigureMsg ι) (rnd : ConfigRandomness)
      (e : ReconfigurationError ι),
        n.coordinateReconfiguration P ctx msg rnd = some (.error e, n', ctx') →
          n' = n ∧ ctx' = ctx) ∧
    (∀ (n n' : Node ι) (ctx ctx' : NodeCtx ι) (msg : LrtqUpgradeMsg ι) (rnd : ConfigRandomness)
      (e : LrtqUpgradeError ι),
        n.coordinateUpgradeFromLrtq P ctx msg rnd = some (.error e, n', ctx') →
          n' = n ∧ ctx' = ctx) ∧
    (∀ (pid : ι) (msg : ReconfigureMsg ι) (ps : PersistentStateSummary ι)
      (last : Option (ValidatedReconfigureMsg ι)) (v : ValidatedReconfigureMsg ι),
        ValidatedReconfigureMsg.new pid msg ps last = .ok (some v) →
          ∀ secret rng, ∃ r, newConfiguration P v.toParams secret rng = .ok r) ∧
    (∀ (pid : ι) (ps : PersistentState ι) (msg : LrtqUpgradeMsg ι) (v : ValidatedLrtqUpgradeMsg ι),
        ValidatedLrtqUpgradeMsg.new pid ps msg = .ok v →
          ∀ secret rng, ∃ r, newConfiguration P v.toParams secret rng = .ok r) ∧
    (∀ (pid : ι) (msg : ReconfigureMsg ι) (ps : PersistentState ι)
      (last : Option (ValidatedReconfigureMsg ι)) (v : ValidatedReconfigureMsg ι),
        ValidatedReconfigureMsg.new pid msg ps.summary last = .ok (some v) →
          ps.isUninitialized = false → ps.latestCommittedConfigAndShare ≠ some none) := by
  refine ⟨fun _ _ _ _ _ _ _ => Node.commitConfiguration_error,
    fun _ _ _ _ _ _ => Node.prepareAndCommit_error,
    fun _ _ _ _ _ _ _ => Node.coordinateReconfiguration_error,
    fun _ _ _ _ _ _ _ => Node.coordinateUpgradeFromLrtq_error, ?_, ?_,
    fun _ _ _ _ _ hv => Node.latestCommittedConfigAndShare_ne_some_none hv⟩
  · intro pid msg ps last v hv secret rng
    obtain ⟨rfl, -, -, hsizes, -⟩ := ValidatedReconfigureMsg.new_eq_ok_some hv
    exact newConfiguration_isOk P hsizes secret rng
  · intro pid ps msg v hv secret rng
    obtain ⟨rfl, -, -, -, -, -, hsizes, -⟩ := ValidatedLrtqUpgradeMsg.new_eq_ok hv
    exact newConfiguration_isOk P hsizes secret rng

/-- Nexus commits epoch `1` on node `0` of the run of three nodes before it has prepared: the
    commit is refused, and nothing changes. -/
theorem nexusRequests_atomic_trio :
    (World.trioConnected.nodes 0).1.commitConfiguration (World.trioConnected.nodes 0).2
        (NexusState.new : NexusState Nat).rackId 1 =
      some (.error (.notPrepared 1), (World.trioConnected.nodes 0).1,
        (World.trioConnected.nodes 0).2) ∧
    ((World.trioConnected.nodes 0).1 = (World.trioConnected.nodes 0).1 ∧
      (World.trioConnected.nodes 0).2 = (World.trioConnected.nodes 0).2) := by
  have h : (World.trioConnected.nodes 0).1.commitConfiguration (World.trioConnected.nodes 0).2
      (NexusState.new : NexusState Nat).rackId 1 =
        some (.error (.notPrepared 1), (World.trioConnected.nodes 0).1,
          (World.trioConnected.nodes 0).2) := rfl
  exact ⟨h, (nexusRequests_atomic Node.inertPrimitives).1 _ _ _ _ _ _ _ h⟩

/-! ## 3. A repeated request -/

namespace ValidatedReconfigureMsg

/-- With no request being coordinated, validation never reports a repetition. -/
theorem new_ne_ok_none (pid : ι) (msg : ReconfigureMsg ι) (ps : PersistentStateSummary ι) :
    new pid msg ps none ≠ .ok none := by
  intro h
  simp only [new, bind, Except.bind, pure, Except.pure] at h
  split_ifs at h
  split at h
  · cases h
  split at h
  · cases h
  split at h
  · cases h
  split at h
  · cases h
  simp only [checkExistingCoordination, Bool.false_eq_true, if_false, Except.ok.injEq,
    reduceCtorEq] at h

/-- A request whose epoch is the latest saved configuration's is refused by `check_epoch`, once
    the checks before it pass. -/
theorem new_eq_preparedEpochMismatch {pid : ι} {msg : ReconfigureMsg ι}
    {ps : PersistentStateSummary ι} (last : Option (ValidatedReconfigureMsg ι))
    (hlrtq : ps.isLrtqOnly = false) (hmem : pid ∈ msg.members)
    (hsizes : checkSizes msg.members.card msg.threshold = none)
    (hrack : checkRackId msg.rackId ps = .ok ()) (hexp : ps.expunged = none)
    (hlce : msg.lastCommittedEpoch = ps.latestCommittedConfig)
    (hlatest : ps.latestConfig = some msg.epoch) :
    new pid msg ps last = .error (.preparedEpochMismatch msg.epoch msg.epoch) := by
  simp only [new, bind, Except.bind, hlrtq, hmem, checkMembershipSizes, hsizes, hrack,
    checkInService, hexp, checkEpoch, hlce, hlatest, ne_eq, not_true_eq_false, le_refl, if_true,
    if_false, Bool.false_eq_true]

end ValidatedReconfigureMsg

namespace Node

variable {n n' : Node ι} {ctx ctx' : NodeCtx ι}

/-- **`coordinate_reconfiguration` on a node that coordinates nothing**, when it succeeds: the
    request was validated, and a coordinator started and sent its first messages. -/
theorem coordinateReconfiguration_ok_of_idle {msg : ReconfigureMsg ι} {rnd : ConfigRandomness}
    (hn : n.coordinatorState = none)
    (h : n.coordinateReconfiguration P ctx msg rnd = some (.ok (), n', ctx')) :
    ∃ v, ValidatedReconfigureMsg.new ctx.platformId msg ctx.persistentState.summary none =
        .ok (some v) ∧
      ∃ cs ctx₁, n' = { n with coordinatorState := some cs, keyShareComputer := none } ∧
        cs.sendMsgs ctx₁ = some ctx' ∧
        ((∃ config share,
            CoordinatorState.newUninitialized P v rnd = some (.ok (cs, config, share)) ∧
            config.epoch ∉ ctx.persistentState.configs ∧
            ctx₁ = ctx.updatePersistentState (·.saveConfigAndShare config share)) ∨
          (∃ config share,
            ctx.persistentState.latestCommittedConfigAndShare = some (some (config, share)) ∧
            CoordinatorState.newReconfiguration P v config share rnd = .ok cs ∧ ctx₁ = ctx)) := by
  unfold coordinateReconfiguration at h
  simp only [hn] at h
  split at h
  · simp only [Option.some.injEq, Prod.mk.injEq, reduceCtorEq, false_and] at h
  · exact absurd ‹_› (ValidatedReconfigureMsg.new_ne_ok_none _ _ _)
  rename_i v hv
  simp only [Option.bind_eq_bind, Option.bind_eq_some_iff] at h
  obtain ⟨⟨r₁, n₁, ctx₁⟩, hset, h⟩ := h
  refine ⟨v, hv, ?_⟩
  rcases setCoordinatorState_spec hset with ⟨⟨e, rfl⟩, rfl, rfl⟩ | ⟨rfl, cs, rfl, hcs⟩
  · simp only [Option.pure_def, Option.some.injEq, Prod.mk.injEq, reduceCtorEq, false_and] at h
  · simp only [Option.bind_eq_some_iff, Option.pure_def, Option.some.injEq, Prod.mk.injEq] at h
    obtain ⟨ctx₂, hsend, -, rfl, rfl⟩ := h
    exact ⟨cs, ctx₁, rfl, hsend, hcs⟩

/-- **A repeated reconfiguration request is refused on a node that had committed nothing.** The
    first request, accepted on a node with no committed configuration that coordinates nothing,
    saves the coordinator's configuration at the request's epoch at once. The same request again
    then fails `check_epoch` with `PreparedEpochMismatch` -- before
    `check_existing_coordination` could recognise it as the idempotent request that
    `ValidatedReconfigureMsg::new` documents -- and changes nothing. -/
theorem coordinateReconfiguration_repeat_refused {msg : ReconfigureMsg ι} {rnd : ConfigRandomness}
    (hwf : ctx.persistentState.Wf) (hinit : ctx.persistentState.isUninitialized = true)
    (hn : n.coordinatorState = none)
    (h : n.coordinateReconfiguration P ctx msg rnd = some (.ok (), n', ctx'))
    (rnd' : ConfigRandomness) :
    n'.coordinateReconfiguration P ctx' msg rnd' =
      some (.error (.preparedEpochMismatch msg.epoch msg.epoch), n', ctx') := by
  obtain ⟨v, hv, cs, ctx₁, rfl, hsend, hstart⟩ := coordinateReconfiguration_ok_of_idle hn h
  obtain ⟨rfl, hlrtq, hmem, hsizes, -, hexp, hepoch, -⟩ :=
    ValidatedReconfigureMsg.new_eq_ok_some hv
  obtain ⟨hlce, -⟩ := ValidatedReconfigureMsg.checkEpoch_eq_ok hepoch
  obtain ⟨-, -, -, -, hfresh⟩ := ValidatedReconfigureMsg.new_spec hv
  have hnocommit : ctx.persistentState.latestCommittedEpoch = none := by
    simp only [PersistentState.isUninitialized, Bool.and_eq_true, Option.isNone_iff_eq_none] at hinit
    exact hinit.2
  -- with nothing committed, the coordinator starts from scratch and saves its configuration
  obtain ⟨config, share, hnu, -, rfl⟩ : ∃ config share,
      CoordinatorState.newUninitialized P _ rnd = some (.ok (cs, config, share)) ∧
      config.epoch ∉ ctx.persistentState.configs ∧
      ctx₁ = ctx.updatePersistentState (·.saveConfigAndShare config share) := by
    rcases hstart with hu | ⟨config, share, hlatest, -⟩
    · exact hu
    · simp [PersistentState.latestCommittedConfigAndShare, hnocommit] at hlatest
  obtain ⟨hmsg, -, hcepoch, hcrack, -⟩ := CoordinatorState.newUninitialized_spec hnu
  obtain ⟨hsends, -⟩ := CoordinatorState.sendMsgs_spec hsend
  set ps := ctx.persistentState
  have hpid : ctx'.platformId = ctx.platformId := hsends.platformId
  have hps : ctx'.persistentState = ps.saveConfigAndShare config share := hsends.persistentState
  -- the saved configuration is the latest one: every earlier one is older than the request
  have hlatest : (ps.saveConfigAndShare config share).latestConfig = some config := by
    refine PersistentState.latestConfig_eq_of_max (e := msg.epoch) ?_ fun x hx => ?_
    · simp only [PersistentState.saveConfigAndShare_configs, hcepoch, Finmap.lookup_insert]
    · simp only [PersistentState.saveConfigAndShare_configs, hcepoch, Finmap.mem_insert] at hx
      rcases hx with rfl | hx
      · exact le_refl _
      · exact (hwf.lt_of_latestConfig hfresh x hx).le
  have hcommits : (ps.saveConfigAndShare config share).latestCommittedEpoch =
      ps.latestCommittedEpoch := rfl
  have hrack : (ps.saveConfigAndShare config share).rackId = some msg.rackId := by
    simp only [PersistentState.rackId, hlatest, Option.map_some, hcrack, Option.orElse_some]
  -- the repetition: validation stops at `check_epoch`
  unfold coordinateReconfiguration
  simp only [hmsg]
  rw [hpid, hps, ValidatedReconfigureMsg.new_eq_preparedEpochMismatch _
    (by simpa [PersistentState.summary, PersistentState.isLrtqOnly, hcommits] using hlrtq) hmem
    hsizes (by simp [PersistentState.summary, hrack, checkRackId])
    (by simpa [PersistentState.summary] using hexp)
    (by simpa [PersistentState.summary, hcommits] using hlce)
    (by simp [PersistentState.summary, hlatest, hcepoch])]

/-- Nexus's request for epoch `1` in the run of three nodes. -/
def trioRequest : ReconfigureMsg Nat :=
  World.trioConfig.toReconfigureMsg (NexusState.new : NexusState Nat).rackId

theorem trioFirst_isSome : ((World.trioConnected.nodes 0).1.coordinateReconfiguration
    inertPrimitives (World.trioConnected.nodes 0).2 trioRequest World.trioRandomness).isSome := by
  rfl

/-- Node `0` after accepting `trioRequest`. -/
def trioCoordinating : Node Nat × NodeCtx Nat :=
  (((World.trioConnected.nodes 0).1.coordinateReconfiguration inertPrimitives
    (World.trioConnected.nodes 0).2 trioRequest World.trioRandomness).get trioFirst_isSome).2

theorem coordinateReconfiguration_repeat_refused_trio :
    (World.trioConnected.nodes 0).1.coordinateReconfiguration inertPrimitives
        (World.trioConnected.nodes 0).2 trioRequest World.trioRandomness =
      some (.ok (), trioCoordinating.1, trioCoordinating.2) ∧
    trioCoordinating.1.coordinateReconfiguration inertPrimitives trioCoordinating.2 trioRequest
        World.trioRandomness =
      some (.error (.preparedEpochMismatch trioRequest.epoch trioRequest.epoch),
        trioCoordinating.1, trioCoordinating.2) := by
  have hfirst : (World.trioConnected.nodes 0).1.coordinateReconfiguration inertPrimitives
      (World.trioConnected.nodes 0).2 trioRequest World.trioRandomness =
        some (.ok (), trioCoordinating.1, trioCoordinating.2) := rfl
  exact ⟨hfirst, coordinateReconfiguration_repeat_refused
    (inv_reachable (World.trioConnected_reachable.node 0)).wf (by decide) rfl hfirst _⟩

end Node

end Omicron.TrustQuorum
