import Omicron.TrustQuorum.Coordinator
import Omicron.TrustQuorum.Ledger

/-!
# Trust quorum: what a coordinator step does

One lemma per function of `coordinator_state.rs`, saying everything a caller needs, so that no
proof about the node unfolds the coordinator again.

* `MaySend` -- the messages a coordinator sends: requests for shares, and the `Prepare`s it holds;
  `sendMsgs_spec`, `sendMsgsTo_spec`;
* `Continues` -- a step that stays in its phase; `Jumps` -- the jump to preparing: the
  configuration, now with its encrypted secrets, is stored with our share, and the `Prepare`s of
  the new operation each carry it;
* `transitionToPreparing_spec`, `handleShare_spec`, `handleLrtqShare_spec`: every step is one of
  the two; `ackPrepare_op`.
-/

set_option linter.unusedSectionVars false

namespace Omicron.TrustQuorum

open Omicron.Gfss NodeCtx

/-- The collecting phases, before `transition_to_preparing`. -/
def CoordinatorOperation.IsCollecting {ι : Type} : CoordinatorOperation ι → Prop
  | .prepare _ _ => False
  | _ => True

namespace CoordinatorState

variable {ι : Type} [LinearOrder ι] {P : Primitives}

/-- What a coordinator may send to `dest`: requests for shares, and the `Prepare` it holds for
    `dest`. -/
def MaySend (cs : CoordinatorState ι) (dest : ι) : PeerMsgKind ι → Prop
  | .getShare _ => True
  | .getLrtqShare => True
  | .prepare c s => ∃ prepares acks, cs.op = .prepare prepares acks ∧
      prepares.lookup dest = some (c, s)
  | _ => False

/-- The envelopes a coordinator queues. -/
def Says (cs : CoordinatorState ι) (pid : ι) (env : Envelope ι) : Prop :=
  env.sender = pid ∧ cs.MaySend env.dest env.msg.kind

/-! ## 1. New configurations -/

omit [LinearOrder ι] in
theorem splitSecretImpl_length {secret : List UInt8} {n k : UInt8} {rng : Nat → UInt8}
    {ss : SecretShares} (h : splitSecretImpl secret n k rng = .ok ss) :
    ss.shares.length = n.toNat := by
  unfold splitSecretImpl at h
  cases hv : ValidThreshold.new n k with
  | error e => simp [hv, bind, Except.bind] at h
  | ok t =>
    simp only [hv, bind, Except.bind, pure, Except.pure, Except.ok.injEq] at h
    rw [← h, List.length_map, List.length_range]

/-- The member maps agree: a member's recorded digest is its share's. -/
theorem memberMaps_digest (ids : List ι) (ss : List Share) {id : ι} {s : Share}
    (h : (memberMaps P ids ss).2.lookup id = some s) :
    (memberMaps P ids ss).1.lookup id = some (shareDigest P s) := by
  induction ids generalizing ss with
  | nil => simp [memberMaps] at h
  | cons id₀ ids ih =>
    cases ss with
    | nil => simp [memberMaps] at h
    | cons s₀ ss =>
      simp only [memberMaps] at h ⊢
      by_cases hid : id = id₀
      · subst hid
        rw [Finmap.lookup_insert, Option.some.injEq] at h
        rw [Finmap.lookup_insert, h]
      · rw [Finmap.lookup_insert_of_ne _ hid] at h ⊢
        exact ih ss h

/-- Every member gets a share, when there are enough shares. -/
theorem mem_memberMaps (ids : List ι) (ss : List Share) (hlen : ids.length ≤ ss.length) {id : ι}
    (hid : id ∈ ids) : id ∈ (memberMaps P ids ss).2 := by
  induction ids generalizing ss with
  | nil => simp at hid
  | cons id₀ ids ih =>
    cases ss with
    | nil => simp at hlen
    | cons s₀ ss =>
      simp only [memberMaps, Finmap.mem_insert]
      rcases List.mem_cons.mp hid with rfl | h
      · exact .inl rfl
      · exact .inr (ih ss (by simpa using hlen) h)

/-- **`new_configuration`**: the configuration is the request's, without encrypted secrets; every
    requested member has a share, and each share's digest is recorded for its member. -/
theorem newConfiguration_spec {params : NewConfigParams ι} {secret : RackSecret}
    {rng : Nat → UInt8} {config : Configuration ι} {shares : Finmap fun _ : ι => Share}
    (h : newConfiguration P params secret rng = .ok (config, shares)) :
    config.rackId = params.rackId ∧ config.epoch = params.epoch ∧
    config.coordinator = params.coordinatorId ∧ config.threshold = params.threshold ∧
    config.encryptedRackSecrets = none ∧
    (∀ id ∈ params.members, id ∈ shares) ∧
    (∀ id s, shares.lookup id = some s → config.members.lookup id = some (shareDigest P s)) := by
  unfold newConfiguration at h
  split_ifs at h with hcard
  split at h
  · cases h
  · rename_i ss hsplit
    simp only [Except.ok.injEq, Prod.mk.injEq] at h
    obtain ⟨rfl, rfl⟩ := h
    refine ⟨rfl, rfl, rfl, rfl, rfl, fun id hid => ?_, fun id s hs => memberMaps_digest _ _ hs⟩
    have hlen : (params.members.ascending).length ≤ ss.shares.length := by
      rw [splitSecretImpl_length hsplit, Finset.length_ascending, UInt8.toNat_ofNat',
        Nat.mod_eq_of_lt (by omega)]
    exact mem_memberMaps _ _ hlen (by rw [Finset.mem_ascending]; exact hid)

/-- A share's member is a member: the digests and the shares have the same keys on one side. -/
theorem mem_members_of_newConfiguration {params : NewConfigParams ι} {secret : RackSecret}
    {rng : Nat → UInt8} {config : Configuration ι} {shares : Finmap fun _ : ι => Share}
    (h : newConfiguration P params secret rng = .ok (config, shares)) {id : ι}
    (hid : id ∈ params.members) : id ∈ config.members := by
  obtain ⟨-, -, -, -, -, hmem, hdig⟩ := newConfiguration_spec h
  obtain ⟨s, hs⟩ := Finmap.mem_iff.mp (hmem id hid)
  exact Finmap.mem_iff.mpr ⟨_, hdig id s hs⟩

/-! ## 2. Sending -/

theorem sendMsgs_spec {cs : CoordinatorState ι} {ctx ctx' : NodeCtx ι}
    (h : cs.sendMsgs ctx = some ctx') :
    SendsOnly ctx ctx' ∧ Queues ctx ctx' (cs.Says ctx.platformId) := by
  unfold sendMsgs at h
  split at h
  · simp only [Option.bind_eq_bind, Option.bind_eq_some_iff] at h
    obtain ⟨_, _, hs⟩ := h
    exact ⟨sendAll_sendsOnly hs,
      (sendAll_queues hs).mono fun env h => ⟨h.1, by simp [MaySend, h.2]⟩⟩
  · exact ⟨sendAll_sendsOnly h,
      (sendAll_queues h).mono fun env h => ⟨h.1, by simp [MaySend, h.2]⟩⟩
  · rename_i prepares acks hop
    -- each `Prepare` sent is the one held for its destination
    have hstep : ∀ c c' (p : ι × (Configuration ι × Share)), p ∈ prepares.sortedEntries →
        (if p.1 ∈ c.connected then c.send p.1 (.prepare p.2.1 p.2.2) else some c) = some c' →
        SendsOnly c c' ∧ Queues c c' fun env => env.dest = p.1 ∧
          env.msg.kind = .prepare p.2.1 p.2.2 ∧ env.sender = c.platformId := by
      intro c c' p _ hs
      split at hs
      · exact ⟨send_sendsOnly hs, (send_queues hs).mono fun _ h => ⟨h.2.1, h.2.2, h.1⟩⟩
      · cases hs
        exact ⟨SendsOnly.refl c, Queues.refl c _⟩
    refine ⟨foldlM_sendsOnly (fun c c' p hp hs => (hstep c c' p hp hs).1) h,
      foldlM_queues (fun c c' p hp hpid hs => ?_) h⟩
    refine (hstep c c' p hp hs).2.mono fun env ⟨hd, hk, hsnd⟩ => ⟨hsnd.trans hpid, ?_⟩
    rw [hk, hd]
    exact ⟨prepares, acks, hop, Finmap.mem_sortedEntries.mp hp⟩

theorem sendMsgsTo_spec {cs : CoordinatorState ι} {ctx ctx' : NodeCtx ι} {dest : ι}
    (h : cs.sendMsgsTo ctx dest = some ctx') :
    SendsOnly ctx ctx' ∧ Queues ctx ctx' (cs.Says ctx.platformId) := by
  unfold sendMsgsTo at h
  split at h
  · split_ifs at h
    · simp only [Option.bind_eq_bind, Option.bind_eq_some_iff] at h
      obtain ⟨_, _, hs⟩ := h
      split_ifs at hs
      · exact ⟨send_sendsOnly hs,
          (send_queues hs).mono fun env h => ⟨h.1, by simp [MaySend, h.2.2]⟩⟩
      · cases hs
        exact ⟨SendsOnly.refl ctx, Queues.refl ctx _⟩
    · cases h
      exact ⟨SendsOnly.refl ctx, Queues.refl ctx _⟩
  · split_ifs at h
    · exact ⟨send_sendsOnly h,
        (send_queues h).mono fun env h => ⟨h.1, by simp [MaySend, h.2.2]⟩⟩
    · cases h
      exact ⟨SendsOnly.refl ctx, Queues.refl ctx _⟩
  · rename_i prepares acks hop
    split at h
    · rename_i c s hl
      refine ⟨send_sendsOnly h, (send_queues h).mono fun env ⟨hsnd, hd, hk⟩ => ⟨hsnd, ?_⟩⟩
      rw [hk, hd]
      exact ⟨prepares, acks, hop, hl⟩
    · cases h
      exact ⟨SendsOnly.refl ctx, Queues.refl ctx _⟩

/-! ## 3. The two kinds of step -/

/-- A step that stays in its phase: the same request and configuration, and the same operation
    or another collecting one. -/
structure Continues (cs cs' : CoordinatorState ι) : Prop where
  msg : cs'.msg = cs.msg
  configuration : cs'.configuration = cs.configuration
  op : cs'.op = cs.op ∨ (cs.op.IsCollecting ∧ cs'.op.IsCollecting)

theorem Continues.refl (cs : CoordinatorState ι) : Continues cs cs := ⟨rfl, rfl, .inl rfl⟩

theorem Continues.trans {cs₁ cs₂ cs₃ : CoordinatorState ι} (h₁ : Continues cs₁ cs₂)
    (h₂ : Continues cs₂ cs₃) : Continues cs₁ cs₃ := by
  refine ⟨h₂.msg.trans h₁.msg, h₂.configuration.trans h₁.configuration, ?_⟩
  rcases h₁.op with e₁ | ⟨c₁, c₂⟩
  · rw [← e₁]
    exact h₂.op
  · rcases h₂.op with e₂ | ⟨_, c₃⟩
    · rw [e₂]
      exact .inr ⟨c₁, c₂⟩
    · exact .inr ⟨c₁, c₃⟩

/-- `transition_to_preparing` as the node sees it: a collecting coordinator stores the
    configuration (the same but for its encrypted secrets) with our share, for an epoch with no
    configuration yet; its new operation holds `Prepare`s that carry that configuration, with
    only us acknowledged; and what it queues is its own. -/
structure Jumps (cs cs' : CoordinatorState ι) (ctx ctx' : NodeCtx ι) : Prop where
  collecting : cs.op.IsCollecting
  msg : cs'.msg = cs.msg
  configuration : cs'.configuration =
    { cs.configuration with encryptedRackSecrets := cs'.configuration.encryptedRackSecrets }
  fresh : cs.configuration.epoch ∉ ctx.persistentState.configs
  ps : ∃ share, ctx'.persistentState = ctx.persistentState.saveConfigAndShare cs'.configuration share
  op : ∃ prepares, cs'.op = .prepare prepares {ctx.platformId} ∧
    ∀ x v, prepares.lookup x = some v → v.1 = cs'.configuration
  queues : Queues ctx ctx' (cs'.Says ctx.platformId)

theorem Jumps.of_continues {cs₁ cs₂ cs₃ : CoordinatorState ι} {ctx ctx' : NodeCtx ι}
    (h₁ : Continues cs₁ cs₂) (hc : cs₂.op.IsCollecting) (h₂ : Jumps cs₂ cs₃ ctx ctx') :
    Jumps cs₁ cs₃ ctx ctx' := by
  refine ⟨?_, h₂.msg.trans h₁.msg, by rw [h₂.configuration, h₁.configuration], by
    rw [← h₁.configuration]; exact h₂.fresh, h₂.ps, h₂.op, h₂.queues⟩
  rcases h₁.op with e | ⟨c, _⟩
  · rw [← e]
    exact hc
  · exact c

/-- A jump is still the jump after calls that leave the persistent state, the queue and the node
    alone. -/
theorem Jumps.congr {cs cs' : CoordinatorState ι} {ctx ctx₁ ctx' : NodeCtx ι}
    (h : Jumps cs cs' ctx ctx₁) (hps : ctx'.persistentState = ctx₁.persistentState)
    (hout : ctx'.outgoing = ctx₁.outgoing) (hpid : ctx'.platformId = ctx₁.platformId) :
    Jumps cs cs' ctx ctx' := by
  refine ⟨h.collecting, h.msg, h.configuration, h.fresh, by rw [hps]; exact h.ps, h.op, ?_⟩
  obtain ⟨l, hl, hq⟩ := h.queues.outgoing
  exact ⟨hpid.trans h.queues.platformId, l, by rw [hout, hl], hq⟩

/-- **`transition_to_preparing`**: nothing changes (a failed rebuild or encryption), or the jump. -/
theorem transitionToPreparing_spec {cs cs' : CoordinatorState ι} {ctx ctx' : NodeCtx ι}
    {newShares : Finmap fun _ : ι => Share} {plaintext : PlaintextRackSecrets} {salt : Salt}
    (hc : cs.op.IsCollecting)
    (h : cs.transitionToPreparing P ctx newShares plaintext salt = some (cs', ctx')) :
    (cs' = cs ∧ ctx' = ctx) ∨ Jumps cs cs' ctx ctx' := by
  unfold transitionToPreparing at h
  split at h
  · simp only [Option.some.injEq, Prod.mk.injEq] at h
    exact .inl ⟨h.1.symm, h.2.symm⟩
  · simp only [Option.bind_eq_bind, Option.bind_eq_some_iff] at h
    obtain ⟨r, _, h⟩ := h
    split at h
    · simp only [Option.some.injEq, Prod.mk.injEq] at h
      exact .inl ⟨h.1.symm, h.2.symm⟩
    · rename_i enc
      split_ifs at h with hsome hfresh
      · simp at h
      simp only [Option.bind_eq_some_iff] at h
      obtain ⟨share, hshare, ctx₁, hsend, hres⟩ := h
      simp only [Option.pure_def, Option.some.injEq, Prod.mk.injEq] at hres
      obtain ⟨rfl, rfl⟩ := hres
      right
      have hq := sendMsgs_spec hsend
      refine ⟨hc, rfl, rfl, hfresh, ⟨share, ?_⟩, ⟨_, rfl, fun x v hv => ?_⟩, ?_⟩
      · rw [hq.1.persistentState]
        rfl
      · obtain ⟨p, _, hp⟩ := List.mem_map.mp (Finmap.mem_of_lookup_ofPairs hv)
        rw [← (Prod.mk.inj hp).2]
      · exact (updatePersistentState_queues ctx _ _).trans hq.2

/-- A step that returns the coordinator it continued to. -/
theorem continues_of_eq {cs c cs' : CoordinatorState ι} {ctx ctx' : NodeCtx ι}
    (hc : Continues cs c) (h : some (c, ctx) = some (cs', ctx')) :
    (Continues cs cs' ∧ ctx' = ctx) ∨ Jumps cs cs' ctx ctx' := by
  simp only [Option.some.injEq, Prod.mk.injEq] at h
  obtain ⟨rfl, rfl⟩ := h
  exact .inl ⟨hc, rfl⟩

/-- The jump, entered from a collecting coordinator that only replaced what it collected. -/
theorem transition_of_continues {cs c cs' : CoordinatorState ι} {ctx ctx' : NodeCtx ι}
    {newShares : Finmap fun _ : ι => Share} {plaintext : PlaintextRackSecrets} {salt : Salt}
    (hc : Continues cs c) (hcol : c.op.IsCollecting)
    (h : c.transitionToPreparing P ctx newShares plaintext salt = some (cs', ctx')) :
    (Continues cs cs' ∧ ctx' = ctx) ∨ Jumps cs cs' ctx ctx' := by
  rcases transitionToPreparing_spec hcol h with ⟨rfl, rfl⟩ | hj
  · exact .inl ⟨hc, rfl⟩
  · exact .inr (Jumps.of_continues hc hcol hj)

/-- **`CoordinatorState::handle_share`**: every step continues its phase, or jumps. -/
theorem handleShare_spec {cs cs' : CoordinatorState ι} {ctx ctx' : NodeCtx ι} {sender : ι}
    {epoch : Nat} {share : Share} {salt : Salt}
    (h : cs.handleShare P ctx sender epoch share salt = some (cs', ctx')) :
    (Continues cs cs' ∧ ctx' = ctx) ∨ Jumps cs cs' ctx ctx' := by
  unfold handleShare at h
  split at h
  · rename_i oldEpoch collected newShares hop
    -- the steps before the jump replace the collected shares and nothing else
    have hcont : ∀ c n, Continues cs { cs with op := .collectShares oldEpoch c n } :=
      fun c n => ⟨rfl, rfl, .inr ⟨by rw [hop]; trivial, trivial⟩⟩
    simp only [Option.bind_eq_bind, Option.bind_eq_some_iff] at h
    obtain ⟨oldConfig, _, h⟩ := h
    split_ifs at h
    · exact continues_of_eq (Continues.refl cs) h
    · exact continues_of_eq (hcont _ _) h
    · exact continues_of_eq (hcont _ _) h
    · split at h
      · exact continues_of_eq (hcont _ _) h
      · simp only [Option.bind_eq_some_iff] at h
        obtain ⟨plaintext, _, h⟩ := h
        split at h
        · exact continues_of_eq (hcont _ _) h
        · simp only [Option.bind_eq_some_iff] at h
          obtain ⟨_, _, h⟩ := h
          exact transition_of_continues (hcont _ _) trivial h
  · exact continues_of_eq (Continues.refl cs) h

/-- **`CoordinatorState::handle_lrtq_share`**: every step continues its phase, or jumps. -/
theorem handleLrtqShare_spec {cs cs' : CoordinatorState ι} {ctx ctx' : NodeCtx ι} {sender : ι}
    {share : LrtqShare} {salt : Salt}
    (h : cs.handleLrtqShare P ctx sender share salt = some (cs', ctx')) :
    (Continues cs cs' ∧ ctx' = ctx) ∨ Jumps cs cs' ctx ctx' := by
  unfold handleLrtqShare at h
  split at h
  · rename_i collected newShares hop
    have hcont : ∀ c n, Continues cs { cs with op := .collectLrtqShares c n } :=
      fun c n => ⟨rfl, rfl, .inr ⟨by rw [hop]; trivial, trivial⟩⟩
    split_ifs at h
    · exact continues_of_eq (Continues.refl cs) h
    · simp only [Option.bind_eq_bind, Option.bind_eq_some_iff] at h
      obtain ⟨lrtqShareData, _, h⟩ := h
      -- rejected shares leave the state; an accepted one replaces the collection
      split_ifs at h
      all_goals first
        | exact continues_of_eq (Continues.refl cs) h
        | exact continues_of_eq (hcont _ _) h
        | skip
      split at h
      · exact continues_of_eq (hcont _ _) h
      · exact transition_of_continues (hcont _ _) trivial h
  · exact continues_of_eq (Continues.refl cs) h

/-- **`CoordinatorState::ack_prepare`**: a member's acknowledgement joins the acknowledgements
    while preparing; nothing else changes. -/
theorem ackPrepare_op (cs : CoordinatorState ι) (sender : ι) :
    (cs.ackPrepare sender).msg = cs.msg ∧
    (cs.ackPrepare sender).configuration = cs.configuration ∧
    ((cs.ackPrepare sender).op = cs.op ∨
      sender ∈ cs.configuration.members ∧ ∃ prepares acks, cs.op = .prepare prepares acks ∧
        (cs.ackPrepare sender).op = .prepare (prepares.erase sender) (insert sender acks)) := by
  unfold ackPrepare
  split
  · rename_i prepares acks hop
    by_cases hm : sender ∈ cs.configuration.members
    · rw [if_neg (not_not.mpr hm)]
      exact ⟨rfl, rfl, .inr ⟨hm, prepares, acks, hop, rfl⟩⟩
    · rw [if_pos hm]
      exact ⟨rfl, rfl, .inl rfl⟩
  · exact ⟨rfl, rfl, .inl rfl⟩

/-! ## 4. The three constructors -/

@[simp] theorem CoordinatingMsg.epoch_reconfig (msg : ValidatedReconfigureMsg ι) :
    (CoordinatingMsg.reconfig msg).epoch = msg.epoch := rfl

@[simp] theorem CoordinatingMsg.epoch_upgrade (msg : ValidatedLrtqUpgradeMsg ι) :
    (CoordinatingMsg.upgrade msg).epoch = msg.epoch := rfl

/-- The `Prepare`s of a new configuration carry it, with each member's own share. -/
theorem preparesOf_lookup {config : Configuration ι} {shares : Finmap fun _ : ι => Share}
    {me x : ι} {v : Configuration ι × Share} (h : (preparesOf config shares me).lookup x = some v) :
    v.1 = config ∧ shares.lookup x = some v.2 ∧ x ≠ me := by
  obtain ⟨p, hp, hpv⟩ := List.mem_map.mp (Finmap.mem_of_lookup_ofPairs h)
  obtain ⟨hpe, hne⟩ := List.mem_filter.mp hp
  obtain ⟨rfl, rfl⟩ := Prod.mk.inj hpv
  exact ⟨rfl, Finmap.mem_sortedEntries.mp hpe, by simpa using hne⟩

/-- **`new_uninitialized`**: a coordinator that prepares at once, for the request's epoch, with
    only itself acknowledged and a `Prepare` with its share for every other member; it returns
    its configuration and its own share. -/
theorem newUninitialized_spec {msg : ValidatedReconfigureMsg ι} {rnd : ConfigRandomness}
    {cs : CoordinatorState ι} {config : Configuration ι} {share : Share}
    (h : newUninitialized P msg rnd = some (.ok (cs, config, share))) :
    cs.msg = .reconfig msg ∧ cs.configuration = config ∧ config.epoch = msg.epoch ∧
    config.rackId = msg.rackId ∧ config.coordinator = msg.coordinatorId ∧
    config.encryptedRackSecrets = none ∧
    (msg.coordinatorId ∈ msg.members → msg.coordinatorId ∈ config.members) ∧
    config.members.lookup msg.coordinatorId = some (shareDigest P share) ∧
    ∃ prepares, cs.op = .prepare prepares {msg.coordinatorId} ∧
      ∀ x v, prepares.lookup x = some v →
        v.1 = config ∧ config.members.lookup x = some (shareDigest P v.2) := by
  unfold newUninitialized at h
  split at h
  · cases h
  · rename_i config₀ shares hnew
    simp only [Option.bind_eq_bind, Option.bind_eq_some_iff, Option.pure_def, Option.some.injEq,
      Except.ok.injEq, Prod.mk.injEq] at h
    obtain ⟨myShare, hmy, rfl, rfl, rfl⟩ := h
    obtain ⟨hrack, hepoch, hcoord, -, henc, -, hdig⟩ := newConfiguration_spec hnew
    refine ⟨rfl, rfl, hepoch, hrack, hcoord, henc, mem_members_of_newConfiguration hnew,
      hdig _ _ hmy,
      _, rfl, fun x v hv => ?_⟩
    obtain ⟨h1, h2, -⟩ := preparesOf_lookup hv
    exact ⟨h1, hdig x v.2 h2⟩

/-- **`new_reconfiguration`**: a coordinator that collects the old shares, for the request's
    epoch, with a configuration not yet encrypted. -/
theorem newReconfiguration_spec {msg : ValidatedReconfigureMsg ι} {config : Configuration ι}
    {share : Share} {rnd : ConfigRandomness} {cs : CoordinatorState ι}
    (h : newReconfiguration P msg config share rnd = .ok cs) :
    cs.msg = .reconfig msg ∧ cs.configuration.epoch = msg.epoch ∧
    cs.configuration.coordinator = msg.coordinatorId ∧ cs.op.IsCollecting ∧
    cs.configuration.encryptedRackSecrets = none ∧
    (msg.coordinatorId ∈ msg.members → msg.coordinatorId ∈ cs.configuration.members) := by
  unfold newReconfiguration at h
  split at h
  · cases h
  · rename_i config₀ shares hnew
    simp only [Except.ok.injEq] at h
    subst h
    obtain ⟨-, hepoch, hcoord, -, henc, -, -⟩ := newConfiguration_spec hnew
    exact ⟨rfl, hepoch, hcoord, trivial, henc, mem_members_of_newConfiguration hnew⟩

/-- **`new_upgrade_from_lrtq`**: a coordinator that collects LRTQ shares, for the request's
    epoch, with a configuration not yet encrypted. -/
theorem newUpgradeFromLrtq_spec {ctx : NodeCtx ι} {msg : ValidatedLrtqUpgradeMsg ι}
    {rnd : ConfigRandomness} {cs : CoordinatorState ι}
    (h : newUpgradeFromLrtq P ctx msg rnd = some (.ok cs)) :
    cs.msg = .upgrade msg ∧ cs.configuration.epoch = msg.epoch ∧
    cs.configuration.coordinator = msg.coordinatorId ∧ cs.op.IsCollecting ∧
    cs.configuration.encryptedRackSecrets = none ∧
    (msg.coordinatorId ∈ msg.members → msg.coordinatorId ∈ cs.configuration.members) := by
  unfold newUpgradeFromLrtq at h
  split at h
  · cases h
  · rename_i config₀ shares hnew
    simp only [Option.bind_eq_bind, Option.bind_eq_some_iff, Option.pure_def, Option.some.injEq,
      Except.ok.injEq] at h
    obtain ⟨_, _, _, _, rfl⟩ := h
    obtain ⟨-, hepoch, hcoord, -, henc, -, -⟩ := newConfiguration_spec hnew
    exact ⟨rfl, hepoch, hcoord, trivial, henc, mem_members_of_newConfiguration hnew⟩

end CoordinatorState

end Omicron.TrustQuorum
