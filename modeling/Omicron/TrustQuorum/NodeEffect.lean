import Omicron.TrustQuorum.NodeRun

/-!
# Trust quorum: what a call leaves behind

Every entry point of a node, whatever it is called with, classified by what the rest of a
cluster sees of it (`Leaves`):

* its ledger extends the old one (`PersistentState.Extends`), and every envelope it queued is
  one the node may say after the call (`Says`);
* every configuration saved afterwards was saved before, was handed to the node by the call
  (`Call.Offers`: in a `Prepare`, a `CommitAdvance` or Nexus's `prepare_and_commit`) and is no
  later than the coordinator it leaves, or is the one that coordinator prepares;
* every epoch committed afterwards was committed before, is one the call commits
  (`Call.Commits`), or is the one the key share computer finished;
* a key share computer afterwards is the old one, or a new one for a configuration the call
  presents as committed: after the node's last commit, and before the epoch of any coordinator
  that survives;
* a coordinator afterwards came about in one of five ways (`Moves`): it went on in its phase,
  took a member's acknowledgement, jumped to preparing, or was started by Nexus's
  `ReconfigureMsg` or `LrtqUpgradeMsg`.

`call_leaves` says so for every `Call`, one lemma per entry point before it. From it,
`coordInv_reachable`: a node's coordinator keeps its configuration at its epoch with the node its
coordinator and a member, no saved configuration is later, and while it prepares its
configuration is saved (`CoordinatorInv`).
-/

set_option linter.unusedSectionVars false

namespace Omicron.TrustQuorum

open Omicron.Gfss NodeCtx PersistentState

namespace Node

variable {ι : Type} [LinearOrder ι] {P : Primitives}

/-! ## 1. What a call hands the node -/

namespace Call

/-- The configuration a call presents as committed elsewhere: a peer's `CommitAdvance`, or
    Nexus's `prepare_and_commit`. -/
def CommitsConfig (call : Call ι) (c : Configuration ι) : Prop :=
  (∃ sender msg salt, call = .handle sender msg salt ∧ msg.kind = .commitAdvance c) ∨
    call = .prepareAndCommit c

/-- A configuration a call hands the node: in a `Prepare`, or presented as committed. -/
def Offers (call : Call ι) (c : Configuration ι) : Prop :=
  (∃ sender msg salt share, call = .handle sender msg salt ∧ msg.kind = .prepare c share) ∨
    call.CommitsConfig c

/-- An epoch a call commits: Nexus's `commit_configuration`, or the epoch of a configuration
    presented as committed. -/
def Commits (call : Call ι) (e : Nat) : Prop :=
  (∃ rackId, call = .commitConfiguration rackId e) ∨ ∃ c, call.CommitsConfig c ∧ c.epoch = e

theorem CommitsConfig.offers {call : Call ι} {c : Configuration ι} (h : call.CommitsConfig c) :
    call.Offers c :=
  .inr h

theorem CommitsConfig.commits {call : Call ι} {c : Configuration ι} (h : call.CommitsConfig c) :
    call.Commits c.epoch :=
  .inr ⟨c, h, rfl⟩

end Call

/-! ## 2. The classification -/

/-- How the coordinator `cs'` a call leaves came about. -/
inductive Moves (call : Call ι) (n n' : Node ι) (ctx ctx' : NodeCtx ι) (cs' : CoordinatorState ι) :
    Prop
  /-- The node's coordinator, gone on in its phase. -/
  | continues {cs : CoordinatorState ι} (hcs : n.coordinatorState = some cs)
      (h : CoordinatorState.Continues cs cs')
  /-- The node's coordinator, with a member's acknowledgement of its epoch. -/
  | acks {cs : CoordinatorState ι} {sender : ι} {msg : PeerMsg ι} {salt : Salt}
      {prepares : Finmap fun _ : ι => Configuration ι × Share} {acks : Finset ι}
      (hcs : n.coordinatorState = some cs) (hcall : call = .handle sender msg salt)
      (hkind : msg.kind = .prepareAck cs.msg.epoch) (hmem : sender ∈ cs.configuration.members)
      (hop : cs.op = .prepare prepares acks) (hmsg : cs'.msg = cs.msg)
      (hconf : cs'.configuration = cs.configuration)
      (hop' : cs'.op = .prepare (prepares.erase sender) (insert sender acks))
  /-- The node's coordinator, jumped from collecting to preparing. -/
  | jumps {cs : CoordinatorState ι} (hcs : n.coordinatorState = some cs)
      (h : CoordinatorState.Jumps cs cs' ctx ctx')
  /-- A coordinator started by Nexus's `ReconfigureMsg`, for an epoch after every saved one, on a
      node whose last commit is the request's, with the node as its configuration's coordinator
      and a member: it collects shares, or -- on an uninitialized node -- prepares with only
      itself acknowledged and its configuration saved. The key share computer is cancelled. -/
  | reconfigures {msg : ReconfigureMsg ι} {rnd : ConfigRandomness}
      (hcall : call = .coordinateReconfiguration msg rnd)
      (hlce : msg.lastCommittedEpoch = ctx.persistentState.latestCommittedEpoch)
      (hfresh : ∀ c, ctx.persistentState.latestConfig = some c → c.epoch < msg.epoch)
      (hepoch : cs'.msg.epoch = msg.epoch) (hconf : cs'.configuration.epoch = msg.epoch)
      (hcoord : cs'.configuration.coordinator = ctx.platformId)
      (hmem : ctx.platformId ∈ cs'.configuration.members) (hksc : n'.keyShareComputer = none)
      (hop : (cs'.op.IsCollecting ∧ ctx'.persistentState = ctx.persistentState) ∨
        ∃ prepares share, cs'.op = .prepare prepares {ctx.platformId} ∧
          (∀ x v, prepares.lookup x = some v → v.1 = cs'.configuration) ∧
          ctx'.persistentState = ctx.persistentState.saveConfigAndShare cs'.configuration share)
  /-- A coordinator started by Nexus's `LrtqUpgradeMsg`, for an epoch after every saved one, on a
      node that never committed: it collects LRTQ shares. The key share computer is
      cancelled. -/
  | upgrades {msg : LrtqUpgradeMsg ι} {rnd : ConfigRandomness}
      (hcall : call = .coordinateUpgradeFromLrtq msg rnd)
      (hlce : ctx.persistentState.latestCommittedEpoch = none)
      (hfresh : ∀ c, ctx.persistentState.latestConfig = some c → c.epoch < msg.epoch)
      (hepoch : cs'.msg.epoch = msg.epoch) (hconf : cs'.configuration.epoch = msg.epoch)
      (hcoord : cs'.configuration.coordinator = ctx.platformId)
      (hmem : ctx.platformId ∈ cs'.configuration.members) (hksc : n'.keyShareComputer = none)
      (hcol : cs'.op.IsCollecting) (hps : ctx'.persistentState = ctx.persistentState)

/-- What a call `call` at node `n` leaves behind, read off the node `n'` and the context `ctx'`
    it returns. -/
structure Leaves (call : Call ι) (n n' : Node ι) (ctx ctx' : NodeCtx ι) : Prop where
  ext : ctx.persistentState.Extends ctx'.persistentState
  queues : Queues ctx ctx' (Says ctx.platformId n' ctx'.persistentState)
  configs : ∀ e cfg, ctx'.persistentState.configs.lookup e = some cfg →
    ctx.persistentState.configs.lookup e = some cfg ∨
    (call.Offers cfg ∧ ∀ cs', n'.coordinatorState = some cs' → cfg.epoch ≤ cs'.msg.epoch) ∨
    ∃ cs' prepares acks, n'.coordinatorState = some cs' ∧ cs'.op = .prepare prepares acks ∧
      cfg = cs'.configuration
  commits : ∀ e ∈ ctx'.persistentState.commits, e ∈ ctx.persistentState.commits ∨
    call.Commits e ∨ ∃ k, n.keyShareComputer = some k ∧ k.config.epoch = e
  computing : ∀ k', n'.keyShareComputer = some k' →
    (∃ k, n.keyShareComputer = some k ∧ k'.config = k.config) ∨
    (call.CommitsConfig k'.config ∧
      (∀ l, ctx.persistentState.latestCommittedEpoch = some l → l < k'.config.epoch) ∧
      ∀ cs', n'.coordinatorState = some cs' →
        n.coordinatorState = some cs' ∧ k'.config.epoch < cs'.msg.epoch)
  coordinator : ∀ cs', n'.coordinatorState = some cs' → Moves call n n' ctx ctx' cs'

namespace Leaves

variable {call : Call ι} {n n' : Node ι} {ctx ctx' : NodeCtx ι}

/-- A call that keeps its coordinator or drops it. -/
theorem coordinator_of_kept
    (hcs : ∀ cs', n'.coordinatorState = some cs' → n.coordinatorState = some cs') :
    ∀ cs', n'.coordinatorState = some cs' → Moves call n n' ctx ctx' cs' :=
  fun cs' h => .continues (hcs cs' h) (CoordinatorState.Continues.refl cs')

/-- A call that leaves both roles and the ledger alone, and queues what the node may say. -/
theorem of_quiet (hcs : n'.coordinatorState = n.coordinatorState)
    (hk : n'.keyShareComputer = n.keyShareComputer)
    (hps : ctx'.persistentState = ctx.persistentState)
    (hq : Queues ctx ctx' (Says ctx.platformId n' ctx'.persistentState)) :
    Leaves call n n' ctx ctx' :=
  ⟨by rw [hps], hq, fun _ _ h => .inl (by rwa [hps] at h), fun _ h => .inl (by rwa [hps] at h),
    fun k' h => .inl ⟨k', hk ▸ h, rfl⟩, coordinator_of_kept fun _ h => hcs ▸ h⟩

theorem refl (call : Call ι) (n : Node ι) (ctx : NodeCtx ι) : Leaves call n n ctx ctx :=
  of_quiet rfl rfl rfl (Queues.refl _ _)

/-- A reply, backed by the node's unchanged state. -/
theorem of_reply (hs : SendsOnly ctx ctx')
    (hq : Queues ctx ctx' (Says ctx.platformId n ctx.persistentState)) :
    Leaves call n n ctx ctx' :=
  of_quiet rfl rfl hs.persistentState (by rw [hs.persistentState]; exact hq)

/-- A coordinator that went on in its phase, in a call that wrote and queued nothing. -/
theorem of_continues {cs cs' : CoordinatorState ι} (hcs : n.coordinatorState = some cs)
    (hcs' : n'.coordinatorState = some cs') (hk : n'.keyShareComputer = n.keyShareComputer)
    (hc : CoordinatorState.Continues cs cs') (hps : ctx'.persistentState = ctx.persistentState)
    (hout : ctx'.outgoing = ctx.outgoing) (hpid : ctx'.platformId = ctx.platformId) :
    Leaves call n n' ctx ctx' := by
  refine ⟨by rw [hps], Queues.of_outgoing_eq hpid hout, fun _ _ h => .inl (by rwa [hps] at h),
    fun _ h => .inl (by rwa [hps] at h), fun k' h => .inl ⟨k', hk ▸ h, rfl⟩, fun c h => ?_⟩
  rw [hcs'] at h
  cases h
  exact .continues hcs hc

/-- A coordinator's jump to preparing: a fresh configuration saved with our share, and what the
    new coordinator says. -/
theorem of_jumps {cs cs' : CoordinatorState ι} (hcs : n.coordinatorState = some cs)
    (hcs' : n'.coordinatorState = some cs') (hk : n'.keyShareComputer = n.keyShareComputer)
    (hj : CoordinatorState.Jumps cs cs' ctx ctx') : Leaves call n n' ctx ctx' := by
  obtain ⟨share, hps⟩ := hj.ps
  obtain ⟨prepares, hop, -⟩ := hj.op
  have hfresh : cs'.configuration.epoch ∉ ctx.persistentState.configs := by
    rw [hj.configuration]
    exact hj.fresh
  refine ⟨by rw [hps]; exact extends_saveConfigAndShare share hfresh,
    hj.queues.mono fun _ h => says_of_coordinator hcs' h, fun e cfg h => ?_, fun e he => ?_,
    fun k' h => .inl ⟨k', hk ▸ h, rfl⟩, fun c h => ?_⟩
  · rw [hps] at h
    rcases saveConfigAndShare_lookup_eq_some h with hold | rfl
    · exact .inl hold
    · exact .inr (.inr ⟨cs', prepares, _, hcs', hop, rfl⟩)
  · rw [hps, saveConfigAndShare_commits] at he
    exact .inl he
  · rw [hcs'] at h
    cases h
    exact .jumps hcs hj

/-- A coordinator started in place of the key share computer, after a write that queues nothing
    -- none, or the coordinator's own configuration saved while it prepares -- and sending its
    first messages. -/
theorem of_start {cs : CoordinatorState ι} {ctx₁ : NodeCtx ι}
    (hcs' : n'.coordinatorState = some cs) (hk : n'.keyShareComputer = none)
    (hq₁ : Queues ctx ctx₁ fun _ => False) (hsend : cs.sendMsgs ctx₁ = some ctx')
    (hwrite : ctx₁.persistentState = ctx.persistentState ∨ ∃ prepares acks share,
      cs.op = .prepare prepares acks ∧ cs.configuration.epoch ∉ ctx.persistentState.configs ∧
      ctx₁.persistentState = ctx.persistentState.saveConfigAndShare cs.configuration share)
    (hmoves : Moves call n n' ctx ctx' cs) : Leaves call n n' ctx ctx' := by
  obtain ⟨hs, hq⟩ := CoordinatorState.sendMsgs_spec hsend
  have hps : ctx'.persistentState = ctx₁.persistentState := hs.persistentState
  have hqueues : Queues ctx ctx' (Says ctx.platformId n' ctx'.persistentState) := by
    rw [← hq₁.platformId]
    exact (hq₁.mono fun _ h => h.elim).trans (hq.mono fun _ h => says_of_coordinator hcs' h)
  have hcoord : ∀ c, n'.coordinatorState = some c → Moves call n n' ctx ctx' c := by
    intro c h
    rw [hcs'] at h
    cases h
    exact hmoves
  rcases hwrite with hps₁ | ⟨prepares, acks, share, hop, hfresh, hps₁⟩
  · exact ⟨by rw [hps, hps₁], hqueues, fun _ _ h => .inl (by rwa [hps, hps₁] at h),
      fun _ h => .inl (by rwa [hps, hps₁] at h), fun k' h => (by rw [hk] at h; cases h), hcoord⟩
  refine ⟨by rw [hps, hps₁]; exact extends_saveConfigAndShare share hfresh, hqueues,
    fun e cfg h => ?_, fun e he => ?_, fun k' h => (by rw [hk] at h; cases h), hcoord⟩
  · rw [hps, hps₁] at h
    rcases saveConfigAndShare_lookup_eq_some h with hold | rfl
    · exact .inl hold
    · exact .inr (.inr ⟨cs, prepares, acks, hcs', hop, rfl⟩)
  · rw [hps, hps₁, saveConfigAndShare_commits] at he
    exact .inl he

end Leaves

/-! ## 3. Each entry point -/

/-- **`Node::handle_prepare_ack`**: the coordinator of the acknowledged epoch takes it. -/
theorem handlePrepareAck_leaves {n : Node ι} {ctx : NodeCtx ι} {sender : ι} {msg : PeerMsg ι}
    {salt : Salt} {epoch : Nat} (hkind : msg.kind = .prepareAck epoch) :
    Leaves (.handle sender msg salt) n (n.handlePrepareAck sender epoch) ctx ctx := by
  obtain ⟨hk, -, hcs⟩ := handlePrepareAck_spec n sender epoch
  refine ⟨Extends.refl _, Queues.refl _ _, fun _ _ h => .inl h, fun _ h => .inl h,
    fun k' h => .inl ⟨k', hk ▸ h, rfl⟩, fun cs' h => ?_⟩
  rw [hcs] at h
  obtain ⟨cs, hcs₀, rfl⟩ := Option.map_eq_some_iff.mp h
  split_ifs with he
  · obtain ⟨hmsg, hconf, hop | ⟨hmem, prepares, acks, hop, hop'⟩⟩ :=
      CoordinatorState.ackPrepare_op cs sender
    · exact .continues hcs₀ ⟨hmsg, hconf, .inl hop⟩
    · exact .acks hcs₀ rfl (by rw [hkind, he]) hmem hop hmsg hconf hop'
  · exact .continues hcs₀ (CoordinatorState.Continues.refl cs)

/-- **`Node::handle_prepare`**: the message's configuration, saved unless one is, and no later
    than any coordinator that survives; the acknowledgement follows the write. -/
theorem handlePrepare_leaves {n n' : Node ι} {ctx ctx' : NodeCtx ι} {sender : ι}
    {msg : PeerMsg ι} {salt : Salt} {config : Configuration ι} {share : Share}
    (hkind : msg.kind = .prepare config share)
    (h : n.handlePrepare ctx sender config share = some (n', ctx')) :
    Leaves (.handle sender msg salt) n n' ctx ctx' := by
  rcases handlePrepare_spec h with ⟨rfl, rfl⟩ | ⟨-, -, hps, hk, -, hcs, hq⟩
  · exact Leaves.refl _ _ _
  refine ⟨by rw [hps]; exact extends_savePrepare _ _ _,
    hq.mono fun env ⟨hs, _, hkd⟩ => ⟨hs, ?_⟩, fun e cfg hcfg => ?_, fun e he => ?_,
    fun k' h' => .inl ⟨k', hk ▸ h', rfl⟩,
    Leaves.coordinator_of_kept fun cs' h' => ((hcs cs').mp h').1⟩
  · rw [hkd, hps]
    exact savePrepare_hasPrepared _ _ _
  · rw [hps] at hcfg
    rcases savePrepare_lookup_eq_some hcfg with hold | rfl
    · exact .inl hold
    · exact .inr (.inl ⟨.inl ⟨sender, msg, salt, share, rfl, hkind⟩,
        fun cs' h' => ((hcs cs').mp h').2⟩)
  · rw [hps, savePrepare_commits] at he
    exact .inl he

/-- **`Node::handle_share`**: to the coordinator, which goes on or jumps; or to the key share
    computer, which commits its epoch once done. -/
theorem handleShare_leaves {n n' : Node ι} {ctx ctx' : NodeCtx ι} {sender : ι} {msg : PeerMsg ι}
    {salt : Salt} {epoch : Nat} {share : Share}
    (h : n.handleShare P ctx sender epoch share salt = some (n', ctx')) :
    Leaves (.handle sender msg salt) n n' ctx ctx' := by
  rcases handleShare_spec h with ⟨cs, cs', hcs, hcs', hk, ⟨hcont, hps, hout, hpid⟩ | hj⟩ |
      ⟨-, hnone', hk, hout, hpid, hps⟩
  · exact Leaves.of_continues hcs hcs' hk hcont hps hout hpid
  · exact Leaves.of_jumps hcs hcs' hk hj
  -- the key share computer: no coordinator is left
  have hcoord : ∀ cs', n'.coordinatorState = some cs' →
      Moves (.handle sender msg salt) n n' ctx ctx' cs' := by
    intro cs' h'
    rw [hnone'] at h'
    cases h'
  rcases hps with hps | ⟨k, s, hk₀, rfl, hps⟩
  · exact ⟨by rw [hps], Queues.of_outgoing_eq hpid hout, fun _ _ h' => .inl (by rwa [hps] at h'),
      fun _ h' => .inl (by rwa [hps] at h'), fun k' h' => .inl (hk k' h'), hcoord⟩
  refine ⟨by rw [hps]; exact extends_saveShareAndCommit _ _ _, Queues.of_outgoing_eq hpid hout,
    fun _ _ h' => .inl (by rwa [hps, saveShareAndCommit_configs] at h'), fun e he => ?_,
    fun k' h' => .inl (hk k' h'), hcoord⟩
  rw [hps, saveShareAndCommit_commits, Finset.mem_insert] at he
  rcases he with rfl | he
  · exact .inr (.inr ⟨k, hk₀, rfl⟩)
  · exact .inl he

/-- **`Node::handle_commit_advance`**, for a call that presents `config` as committed: the
    commit of a prepared epoch, or `config` saved -- before any coordinator that survives -- and
    a key share computer for it. -/
theorem handleCommitAdvance_leaves {call : Call ι} {n n' : Node ι} {ctx ctx' : NodeCtx ι}
    {src : CommitSource ι} {config : Configuration ι} (hcall : call.CommitsConfig config)
    (h : n.handleCommitAdvance ctx src config = some (n', ctx')) : Leaves call n n' ctx ctx' := by
  rcases handleCommitAdvance_spec h with ⟨rfl, hps, hout, hpid⟩ | ⟨-, hlce, ctx₁, b, hadv, hcases⟩
  · exact Leaves.of_quiet rfl rfl hps (Queues.of_outgoing_eq hpid hout)
  obtain ⟨-, hcs, hk, hs, hq⟩ := advanceRoles_spec hadv
  -- the write, which queues nothing and saves or commits only `config`
  have hwrite : ctx.persistentState.Extends ctx₁.persistentState ∧
      Queues ctx ctx₁ (AsksForShare ctx.platformId) ∧
      (∀ e cfg, ctx₁.persistentState.configs.lookup e = some cfg →
        ctx.persistentState.configs.lookup e = some cfg ∨ cfg = config) ∧
      (∀ e ∈ ctx₁.persistentState.commits, e ∈ ctx.persistentState.commits ∨ e = config.epoch) := by
    rcases hcases with ⟨-, -, rfl⟩ | ⟨-, -, rfl⟩ | ⟨-, hfresh, rfl⟩
    · refine ⟨extends_commit _ _, updatePersistentState_queues _ _ _, fun _ _ h' => .inl h',
        fun e he => ?_⟩
      simp only [updatePersistentState_persistentState, commit_commits, Finset.mem_insert] at he
      exact he.symm
    · exact ⟨Extends.refl _, Queues.refl _ _, fun _ _ h' => .inl h', fun _ he => .inl he⟩
    · exact ⟨extends_saveConfig hfresh, updatePersistentState_queues _ _ _,
        fun _ _ h' => saveConfig_lookup_eq_some h', fun _ he => .inl he⟩
  obtain ⟨hext, hq₁, hconfigs, hcommits⟩ := hwrite
  rw [hq₁.platformId] at hq
  have hps : ctx'.persistentState = ctx₁.persistentState := hs.persistentState
  refine ⟨by rw [hps]; exact hext, (hq₁.trans hq).mono fun _ h' => says_of_asksForShare h',
    fun e cfg h' => ?_, fun e he => ?_, fun k' h' => ?_,
    Leaves.coordinator_of_kept fun cs' h' => ((hcs cs').mp h').1⟩
  · rw [hps] at h'
    rcases hconfigs e cfg h' with hold | rfl
    · exact .inl hold
    · exact .inr (.inl ⟨hcall.offers, fun cs' hc => ((hcs cs').mp hc).2.le⟩)
  · rw [hps] at he
    rcases hcommits e he with hold | rfl
    · exact .inl hold
    · exact .inr (.inl hcall.commits)
  · rcases hk k' h' with hold | ⟨hconf, -⟩
    · exact .inl ⟨k', hold, rfl⟩
    · rw [hconf]
      exact .inr ⟨hcall, hlce, fun cs' hc => (hcs cs').mp hc⟩

/-- **`Node::handle`**, message by message. -/
theorem handle_leaves {n n' : Node ι} {ctx ctx' : NodeCtx ι} {sender : ι} {msg : PeerMsg ι}
    {salt : Salt} (h : n.handle P ctx sender msg salt = some (n', ctx')) :
    Leaves (.handle sender msg salt) n n' ctx ctx' := by
  unfold handle at h
  split_ifs at h with hexp hrack
  -- an expunged node, and a message for another rack, change nothing
  all_goals first
    | (obtain ⟨rfl, rfl⟩ := eq_of_some_eq h
       exact Leaves.refl _ _ _)
    | skip
  have hnone : ctx.persistentState.expunged = none := by
    simpa [PersistentState.isExpunged] using hexp
  split at h
  · -- `PrepareAck`
    rename_i hkind
    obtain ⟨rfl, rfl⟩ := eq_of_some_eq h
    exact handlePrepareAck_leaves hkind
  · -- `Prepare`
    rename_i hkind
    exact handlePrepare_leaves hkind h
  · -- `GetShare`
    obtain ⟨rfl, hs, hq⟩ := handleGetShare_spec h
    exact Leaves.of_reply hs hq
  · -- `Share`
    exact handleShare_leaves h
  · -- `CommitAdvance`
    rename_i hkind
    exact handleCommitAdvance_leaves (.inl ⟨sender, msg, salt, rfl, hkind⟩) h
  · -- `Expunged`: recorded, and both roles stop
    rcases handleExpunged_spec n ctx sender _ with he | ⟨-, -, -, he⟩
    · rw [he] at h
      obtain ⟨rfl, rfl⟩ := eq_of_some_eq h
      exact Leaves.refl _ _ _
    rw [he] at h
    obtain ⟨rfl, rfl⟩ := eq_of_some_eq h
    exact ⟨extends_expunge _ hnone, Queues.of_outgoing_eq rfl rfl, fun _ _ h' => .inl h',
      fun _ h' => .inl h', fun k' h' => (by cases h'), fun cs' h' => (by cases h')⟩
  · -- `GetLrtqShare`
    obtain ⟨rfl, hs, hq⟩ := handleGetLrtqShare_spec h
    exact Leaves.of_reply hs hq
  · -- `LrtqShare`: to the coordinator
    rcases handleLrtqShare_spec h with ⟨-, rfl, rfl⟩ | ⟨cs, cs', hcs, rfl, ⟨hcont, rfl⟩ | hj⟩
    · exact Leaves.refl _ _ _
    · exact Leaves.of_continues hcs rfl rfl hcont rfl rfl rfl
    · exact Leaves.of_jumps hcs rfl rfl hj

theorem commitConfiguration_leaves {n n' : Node ι} {ctx ctx' : NodeCtx ι} {rackId : RackUuid}
    {epoch : Nat} {r : Except (CommitError ι) Unit}
    (h : n.commitConfiguration ctx rackId epoch = some (r, n', ctx')) :
    Leaves (.commitConfiguration rackId epoch) n n' ctx ctx' := by
  rcases commitConfiguration_spec h with ⟨rfl, rfl⟩ | ⟨-, -, rfl, rfl⟩
  · exact Leaves.refl _ _ _
  refine ⟨extends_commit _ _, Queues.of_outgoing_eq rfl rfl, fun _ _ h' => .inl h',
    fun e he => ?_, fun k' h' => .inl ⟨k', by simpa using h', rfl⟩,
    Leaves.coordinator_of_kept fun cs' h' => (cancelCoordinationIf_coordinatorState.mp h').1⟩
  simp only [updatePersistentState_persistentState, commit_commits, Finset.mem_insert] at he
  rcases he with rfl | he
  · exact .inr (.inl (.inl ⟨rackId, rfl⟩))
  · exact .inl he

theorem coordinateReconfiguration_leaves {n n' : Node ι} {ctx ctx' : NodeCtx ι}
    {msg : ReconfigureMsg ι} {rnd : ConfigRandomness} {r : Except (ReconfigurationError ι) Unit}
    (h : n.coordinateReconfiguration P ctx msg rnd = some (r, n', ctx')) :
    Leaves (.coordinateReconfiguration msg rnd) n n' ctx ctx' := by
  rcases coordinateReconfiguration_spec h with ⟨rfl, rfl⟩ | ⟨v, last, hv, hstart⟩
  · exact Leaves.refl _ _ _
  obtain ⟨rfl, hpid, -, hlce, hfresh⟩ := ValidatedReconfigureMsg.new_spec hv
  rcases hstart with ⟨rfl, rfl⟩ | ⟨cs, ctx₁, rfl, hsend, hcs⟩
  · -- the coordinator fails to start: only the key share computer goes
    exact ⟨Extends.refl _, Queues.refl _ _, fun _ _ h' => .inl h', fun _ h' => .inl h',
      fun k' h' => (by cases h'), Leaves.coordinator_of_kept fun _ h' => h'⟩
  have hps : ctx'.persistentState = ctx₁.persistentState :=
    (CoordinatorState.sendMsgs_spec hsend).1.persistentState
  rcases hcs with ⟨config, share, hnu, hfresh', rfl⟩ | ⟨config, share, -, hnr, rfl⟩
  · -- an uninitialized node: the coordinator prepares at once, its configuration saved
    obtain ⟨hmsg, rfl, hepoch, -, hcoord, -, hmem, -, prepares, hop, hprep⟩ :=
      CoordinatorState.newUninitialized_spec hnu
    exact Leaves.of_start rfl rfl (updatePersistentState_queues _ _ _) hsend
      (.inr ⟨prepares, _, share, hop, hfresh', rfl⟩)
      (.reconfigures rfl hlce hfresh (by rw [hmsg]; rfl) hepoch hcoord (hmem hpid) rfl
        (.inr ⟨prepares, share, hop, fun x v hv => (hprep x v hv).1, hps⟩))
  · -- the coordinator collects the shares of the last committed configuration
    obtain ⟨hmsg, hepoch, hcoord, hcol, -, hmem⟩ := CoordinatorState.newReconfiguration_spec hnr
    exact Leaves.of_start rfl rfl (Queues.refl _ _) hsend (.inl rfl)
      (.reconfigures rfl hlce hfresh (by rw [hmsg]; rfl) hepoch hcoord (hmem hpid) rfl
        (.inl ⟨hcol, hps⟩))

theorem coordinateUpgradeFromLrtq_leaves {n n' : Node ι} {ctx ctx' : NodeCtx ι}
    {msg : LrtqUpgradeMsg ι} {rnd : ConfigRandomness} {r : Except (LrtqUpgradeError ι) Unit}
    (h : n.coordinateUpgradeFromLrtq P ctx msg rnd = some (r, n', ctx')) :
    Leaves (.coordinateUpgradeFromLrtq msg rnd) n n' ctx ctx' := by
  rcases coordinateUpgradeFromLrtq_spec h with ⟨rfl, rfl⟩ | ⟨v, hv, ⟨rfl, rfl⟩ | ⟨cs, hcs, rfl, hsend⟩⟩
  · exact Leaves.refl _ _ _
  · exact ⟨Extends.refl _, Queues.refl _ _, fun _ _ h' => .inl h', fun _ h' => .inl h',
      fun k' h' => (by cases h'), Leaves.coordinator_of_kept fun _ h' => h'⟩
  obtain ⟨rfl, hpid, -, hlce, -, hfresh⟩ := ValidatedLrtqUpgradeMsg.new_spec hv
  obtain ⟨hmsg, hepoch, hcoord, hcol, -, hmem⟩ := CoordinatorState.newUpgradeFromLrtq_spec hcs
  have hps : ctx'.persistentState = ctx.persistentState :=
    (CoordinatorState.sendMsgs_spec hsend).1.persistentState
  exact Leaves.of_start rfl rfl (Queues.refl _ _) hsend (.inl rfl)
    (.upgrades rfl hlce hfresh (by rw [hmsg]; rfl) hepoch hcoord (hmem hpid) rfl hcol hps)

/-- **Every call**, classified. -/
theorem call_leaves {c : Call ι} {n n' : Node ι} {ctx ctx' : NodeCtx ι}
    (h : call P c (n, ctx) = some (n', ctx')) : Leaves c n n' ctx ctx' := by
  cases c with
  | handle sender msg salt => exact handle_leaves h
  | commitConfiguration rackId epoch =>
    obtain ⟨r, hr⟩ := eq_of_map_snd h
    exact commitConfiguration_leaves hr
  | prepareAndCommit config =>
    obtain ⟨r, hr⟩ := eq_of_map_snd h
    rcases prepareAndCommit_spec hr with ⟨rfl, rfl⟩ | ⟨-, hadv⟩
    · exact Leaves.refl _ _ _
    · exact handleCommitAdvance_leaves (.inr rfl) hadv
  | coordinateReconfiguration msg rnd =>
    obtain ⟨r, hr⟩ := eq_of_map_snd h
    exact coordinateReconfiguration_leaves hr
  | coordinateUpgradeFromLrtq msg rnd =>
    obtain ⟨r, hr⟩ := eq_of_map_snd h
    exact coordinateUpgradeFromLrtq_leaves hr
  | onConnect peer =>
    obtain ⟨rfl, hps, hq⟩ := onConnect_spec h
    exact Leaves.of_quiet rfl rfl hps (by rw [hps]; exact hq)
  | onDisconnect peer =>
    obtain ⟨rfl, rfl⟩ := eq_of_some_eq h
    exact Leaves.of_quiet rfl rfl rfl (Queues.of_outgoing_eq rfl rfl)
  | loadRackSecret epoch =>
    obtain ⟨r, hr⟩ := eq_of_map_snd h
    obtain ⟨hcs, hk, hps, hq⟩ := loadRackSecret_spec hr
    exact Leaves.of_quiet hcs hk hps (hq.mono fun _ h' => says_of_asksForShare h')
  | clearSecrets =>
    obtain ⟨rfl, rfl⟩ := eq_of_some_eq h
    exact Leaves.of_quiet rfl rfl rfl (Queues.refl _ _)

/-! ## 4. What a coordinator keeps -/

/-- What a node's coordinator keeps true of itself and of the node's ledger: its configuration
    is of the epoch it coordinates, with the node its coordinator and a member; no saved
    configuration is later; and while it prepares, its configuration is saved, every `Prepare`
    carries it, and only members have acknowledged. -/
structure CoordinatorInv (pid : ι) (ps : PersistentState ι) (cs : CoordinatorState ι) : Prop where
  epoch : cs.configuration.epoch = cs.msg.epoch
  coordinator : cs.configuration.coordinator = pid
  member : pid ∈ cs.configuration.members
  latest : ∀ e ∈ ps.configs, e ≤ cs.msg.epoch
  preparing : ∀ prepares acks, cs.op = .prepare prepares acks →
    ps.configs.lookup cs.msg.epoch = some cs.configuration ∧
    (∀ x v, prepares.lookup x = some v → v.1 = cs.configuration) ∧
    ∀ a ∈ acks, a ∈ cs.configuration.members

/-- The node's coordinator, if any, satisfies `CoordinatorInv`. -/
def CoordInv (s : Node ι × NodeCtx ι) : Prop :=
  ∀ cs, s.1.coordinatorState = some cs → CoordinatorInv s.2.platformId s.2.persistentState cs

namespace CoordinatorInv

variable {pid : ι} {ps ps' : PersistentState ι} {cs : CoordinatorState ι}

/-- A coordinator that still collects. -/
theorem of_collecting (hepoch : cs.configuration.epoch = cs.msg.epoch)
    (hcoord : cs.configuration.coordinator = pid) (hmem : pid ∈ cs.configuration.members)
    (hlatest : ∀ e ∈ ps.configs, e ≤ cs.msg.epoch) (hcol : cs.op.IsCollecting) :
    CoordinatorInv pid ps cs := by
  refine ⟨hepoch, hcoord, hmem, hlatest, fun prepares acks hop => ?_⟩
  rw [hop] at hcol
  cases hcol

/-- A coordinator that starts preparing, with only the node acknowledged and its configuration
    saved with the node's share. -/
theorem of_saved {prepares : Finmap fun _ : ι => Configuration ι × Share} {share : Share}
    (hepoch : cs.configuration.epoch = cs.msg.epoch) (hcoord : cs.configuration.coordinator = pid)
    (hmem : pid ∈ cs.configuration.members) (hlatest : ∀ e ∈ ps'.configs, e ≤ cs.msg.epoch)
    (hop : cs.op = .prepare prepares {pid})
    (hcarry : ∀ x v, prepares.lookup x = some v → v.1 = cs.configuration)
    (hps : ps' = ps.saveConfigAndShare cs.configuration share) : CoordinatorInv pid ps' cs := by
  refine ⟨hepoch, hcoord, hmem, hlatest, fun prepares' acks' hop' => ?_⟩
  rw [hop] at hop'
  cases hop'
  refine ⟨by rw [hps, saveConfigAndShare_configs, ← hepoch, Finmap.lookup_insert], hcarry,
    fun a ha => ?_⟩
  rw [Finset.mem_singleton.mp ha]
  exact hmem

end CoordinatorInv

/-- No configuration a call saves is later than the coordinator it leaves. -/
theorem Leaves.latest {call : Call ι} {n n' : Node ι} {ctx ctx' : NodeCtx ι}
    (h : Leaves call n n' ctx ctx') (hwf : ctx'.persistentState.Wf) {cs' : CoordinatorState ι}
    (hcs' : n'.coordinatorState = some cs') (hepoch : cs'.configuration.epoch = cs'.msg.epoch)
    (hold : ∀ e ∈ ctx.persistentState.configs, e ≤ cs'.msg.epoch) :
    ∀ e ∈ ctx'.persistentState.configs, e ≤ cs'.msg.epoch := by
  intro e he
  obtain ⟨cfg, hcfg⟩ := Finmap.mem_iff.mp he
  have hkey : cfg.epoch = e := hwf.keyed e cfg hcfg
  rcases h.configs e cfg hcfg with hprev | ⟨-, hle⟩ | ⟨c, prepares, acks, hc, -, rfl⟩
  · exact hold e (Finmap.mem_of_lookup_eq_some hprev)
  · exact hkey ▸ hle cs' hcs'
  · rw [hcs'] at hc
    cases hc
    rw [← hkey, hepoch]

/-- **A call keeps `CoordinatorInv`**, case by case of how its coordinator came about. -/
theorem coordInv_call {c : Call ι} {n n' : Node ι} {ctx ctx' : NodeCtx ι} (hinv : Inv (n, ctx))
    (hinv' : Inv (n', ctx')) (h : CoordInv (n, ctx)) (hc : call P c (n, ctx) = some (n', ctx')) :
    CoordInv (n', ctx') := by
  have hl := call_leaves hc
  have hwf : ctx'.persistentState.Wf := hinv'.wf
  intro cs' hcs'
  change n'.coordinatorState = some cs' at hcs'
  change CoordinatorInv ctx'.platformId ctx'.persistentState cs'
  rw [hl.queues.platformId]
  cases hl.coordinator cs' hcs' with
  | continues hcs hcont =>
    have hi := h _ hcs
    have hepoch : cs'.configuration.epoch = cs'.msg.epoch := by
      rw [hcont.configuration, hcont.msg]
      exact hi.epoch
    refine ⟨hepoch, hcont.configuration ▸ hi.coordinator, hcont.configuration ▸ hi.member,
      hl.latest hwf hcs' hepoch (by rw [hcont.msg]; exact hi.latest), fun prepares acks hop => ?_⟩
    rcases hcont.op with hop₀ | ⟨-, hcol⟩
    · obtain ⟨hsaved, hcarry, hacks⟩ := hi.preparing prepares acks (hop₀ ▸ hop)
      rw [hcont.msg, hcont.configuration]
      exact ⟨hl.ext.configs _ _ hsaved, hcarry, hacks⟩
    · rw [hop] at hcol
      cases hcol
  | acks hcs hcall hkind hmem hop hmsg hconf hop' =>
    have hi := h _ hcs
    have hepoch : cs'.configuration.epoch = cs'.msg.epoch := by
      rw [hconf, hmsg]
      exact hi.epoch
    refine ⟨hepoch, hconf ▸ hi.coordinator, hconf ▸ hi.member,
      hl.latest hwf hcs' hepoch (by rw [hmsg]; exact hi.latest), fun prepares acks hop'' => ?_⟩
    rw [hop'] at hop''
    cases hop''
    obtain ⟨hsaved, hcarry, hacks⟩ := hi.preparing _ _ hop
    rw [hmsg, hconf]
    refine ⟨hl.ext.configs _ _ hsaved,
      fun x v hv => hcarry x v (Finmap.lookup_of_lookup_erase hv), fun a ha => ?_⟩
    rcases Finset.mem_insert.mp ha with rfl | ha
    · exact hmem
    · exact hacks a ha
  | jumps hcs hj =>
    have hi := h _ hcs
    obtain ⟨share, hps⟩ := hj.ps
    obtain ⟨prepares, hop, hcarry⟩ := hj.op
    have hepoch : cs'.configuration.epoch = cs'.msg.epoch := by
      rw [hj.configuration, hj.msg]
      exact hi.epoch
    have hcoord : cs'.configuration.coordinator = ctx.platformId := by
      rw [hj.configuration]
      exact hi.coordinator
    have hmem : ctx.platformId ∈ cs'.configuration.members := by
      rw [hj.configuration]
      exact hi.member
    exact CoordinatorInv.of_saved hepoch hcoord hmem
      (hl.latest hwf hcs' hepoch (by rw [hj.msg]; exact hi.latest)) hop hcarry hps
  | reconfigures hcall hlce hfresh hepoch hconf hcoord hmem hksc hop =>
    have hepoch' : cs'.configuration.epoch = cs'.msg.epoch := hconf.trans hepoch.symm
    have hlatest := hl.latest hwf hcs' hepoch' fun e he => by
      rw [hepoch]
      exact (hinv.wf.lt_of_latestConfig hfresh e he).le
    rcases hop with ⟨hcol, -⟩ | ⟨prepares, share, hop, hcarry, hps⟩
    · exact CoordinatorInv.of_collecting hepoch' hcoord hmem hlatest hcol
    · exact CoordinatorInv.of_saved hepoch' hcoord hmem hlatest hop hcarry hps
  | upgrades hcall hlce hfresh hepoch hconf hcoord hmem hksc hcol hps =>
    have hepoch' : cs'.configuration.epoch = cs'.msg.epoch := hconf.trans hepoch.symm
    refine CoordinatorInv.of_collecting hepoch' hcoord hmem (hl.latest hwf hcs' hepoch' fun e he => ?_)
      hcol
    rw [hepoch]
    exact (hinv.wf.lt_of_latestConfig hfresh e he).le

theorem coordInv_step {s s' : Node ι × NodeCtx ι} (hinv : Inv s) (h : CoordInv s)
    (hs : Step P s s') : CoordInv s' := by
  cases hs with
  | call c hc =>
    obtain ⟨n, ctx⟩ := s
    obtain ⟨n', ctx'⟩ := s'
    exact coordInv_call hinv (inv_step hinv (.call c hc)) h hc
  | restart n ctx =>
    intro cs hcs
    cases hcs
  | drain n ctx => exact h

/-- **Every reachable node satisfies `CoordinatorInv`.** -/
theorem coordInv_reachable {s : Node ι × NodeCtx ι} (hs : Reachable P s) : CoordInv s := by
  induction hs with
  | initial platformId lrtq =>
    intro cs hcs
    cases hcs
  | step hs' hstep ih => exact coordInv_step (inv_reachable hs') ih hstep

end Node

end Omicron.TrustQuorum
