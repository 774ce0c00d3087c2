import Omicron.TrustQuorum.Node
import Omicron.TrustQuorum.CoordinatorSpec

/-!
# Trust quorum: what each entry point of a node does

One lemma per function of `node.rs` (and of the key share computer and the rack secret loader it
drives), each saying what the call did to the persistent state, to the in-memory roles, and what
it queued. Proofs about runs of nodes cite these and never unfold a call again.

* `MaySay`, `Says` -- what a node may send, read in its state after the call: a `PrepareAck` only
  for an epoch it has prepared, a `Prepare` only as its coordinator holds it, a `CommitAdvance`
  only with a committed configuration it stores, a `Share` only its own;
* `KeyShareComputer` and `RackSecretLoader`: they only ask for shares; the computer's one write
  is the computed share with its commit;
* the node's functions, from the simplest on: the classification of each one's effect.
-/

set_option linter.unusedSectionVars false

namespace Omicron.TrustQuorum

open Omicron.Gfss NodeCtx

variable {ι : Type} [LinearOrder ι] {P : Primitives}

/-! ## 1. The key share computer and the rack secret loader -/

/-- A request for a share: all the key share computer and the loader ever send. -/
def AsksForShare (pid : ι) (env : Envelope ι) : Prop :=
  env.sender = pid ∧ ∃ e, env.msg.kind = .getShare e

namespace KeyShareComputer

theorem new_spec {ctx ctx' : NodeCtx ι} {config : Configuration ι} {k : KeyShareComputer ι}
    (h : KeyShareComputer.new ctx config = some (k, ctx')) :
    k.config = config ∧ SendsOnly ctx ctx' ∧ Queues ctx ctx' (AsksForShare ctx.platformId) := by
  unfold KeyShareComputer.new at h
  simp only [Option.bind_eq_bind, Option.bind_eq_some_iff, Option.pure_def, Option.some.injEq,
    Prod.mk.injEq] at h
  obtain ⟨c, hc, rfl, rfl⟩ := h
  exact ⟨rfl, sendAll_sendsOnly hc, (sendAll_queues hc).mono fun _ h => ⟨h.1, _, h.2⟩⟩

theorem onConnect_spec {k : KeyShareComputer ι} {ctx ctx' : NodeCtx ι} {peer : ι}
    (h : k.onConnect ctx peer = some ctx') :
    SendsOnly ctx ctx' ∧ Queues ctx ctx' (AsksForShare ctx.platformId) := by
  unfold onConnect at h
  split_ifs at h
  · exact ⟨send_sendsOnly h, (send_queues h).mono fun _ h => ⟨h.1, _, h.2.2⟩⟩
  · cases h
    exact ⟨SendsOnly.refl ctx, Queues.refl ctx _⟩

/-- **`KeyShareComputer::handle_share`**: the configuration stays; the call either writes nothing
    and sends nothing, or it is done, having saved a share for the configuration's epoch together
    with its commit. -/
theorem handleShare_spec {k k' : KeyShareComputer ι} {ctx ctx' : NodeCtx ι} {sender : ι}
    {epoch : Nat} {share : Share} {done : Bool}
    (h : k.handleShare P ctx sender epoch share = some (k', ctx', done)) :
    k'.config = k.config ∧
    ((done = false ∧ ctx'.persistentState = ctx.persistentState ∧ ctx'.outgoing = ctx.outgoing ∧
        ctx'.platformId = ctx.platformId) ∨
      (done = true ∧ epoch = k.config.epoch ∧
        ∃ s, ctx' = ctx.updatePersistentState (·.saveShareAndCommit epoch s))) := by
  unfold handleShare at h
  dsimp only at h
  -- a rejected, repeated or insufficient share changes nothing but the collection
  have hkeep : ∀ k₁ : KeyShareComputer ι, some (k₁, ctx, false) = some (k', ctx', done) →
      k₁.config = k.config →
      k'.config = k.config ∧ ((done = false ∧ ctx'.persistentState = ctx.persistentState ∧
        ctx'.outgoing = ctx.outgoing ∧ ctx'.platformId = ctx.platformId) ∨
        (done = true ∧ epoch = k.config.epoch ∧
          ∃ s, ctx' = ctx.updatePersistentState (·.saveShareAndCommit epoch s))) := by
    intro k₁ he hk₁
    simp only [Option.some.injEq, Prod.mk.injEq] at he
    obtain ⟨rfl, rfl, rfl⟩ := he
    exact ⟨hk₁, .inl ⟨rfl, rfl, rfl, rfl⟩⟩
  split_ifs at h with hv hd ht
  · exact hkeep _ h rfl
  · exact hkeep _ h rfl
  · exact hkeep _ h rfl
  · split at h
    · exact hkeep _ h rfl
    · split_ifs at h
      split at h
      · simp only [Option.some.injEq, Prod.mk.injEq] at h
        obtain ⟨rfl, rfl, rfl⟩ := h
        -- the share was validated for the configuration's epoch
        have he : epoch = k.config.epoch := by
          simp only [validateShare, Bool.not_eq_true', Bool.and_eq_false_iff, beq_eq_false_iff_ne,
            ne_eq, not_or, not_not] at hv
          exact hv.1
        exact ⟨rfl, .inr ⟨rfl, he, _, rfl⟩⟩
      · simp only [Option.some.injEq, Prod.mk.injEq] at h
        obtain ⟨rfl, rfl, rfl⟩ := h
        exact ⟨rfl, .inl ⟨rfl, rfl, rfl, rfl⟩⟩

end KeyShareComputer

namespace ShareCollector

theorem new_spec {ctx : NodeCtx ι} {r : Except LoadRackSecretError (ShareCollector ι × NodeCtx ι)}
    (h : ShareCollector.new ctx = some r) :
    ∀ sc ctx', r = .ok (sc, ctx') →
      SendsOnly ctx ctx' ∧ Queues ctx ctx' (AsksForShare ctx.platformId) := by
  intro sc ctx' hr
  subst hr
  unfold ShareCollector.new at h
  simp only [Option.bind_eq_bind, Option.bind_eq_some_iff] at h
  obtain ⟨latest, _, h⟩ := h
  split at h
  · cases h
  · simp only [Option.bind_eq_some_iff, Option.pure_def, Option.some.injEq, Except.ok.injEq,
      Prod.mk.injEq] at h
    obtain ⟨_, _, c, hc, -, rfl⟩ := h
    exact ⟨sendAll_sendsOnly hc, (sendAll_queues hc).mono fun _ h => ⟨h.1, _, h.2⟩⟩

/-- **`ShareCollector::new`** never panics on a well-formed ledger: the latest committed
    configuration is there, our share of it too, and the node has a rack id to send with. -/
theorem new_isSome {ctx : NodeCtx ι} (h : ctx.persistentState.Wf) :
    (ShareCollector.new ctx).isSome := by
  obtain ⟨latest, hlatest⟩ := Option.isSome_iff_exists.mp h.latestCommittedConfiguration_isSome
  unfold ShareCollector.new
  simp only [hlatest, Option.bind_eq_bind, Option.bind_some]
  split
  · rfl
  · rename_i c
    obtain ⟨e, he, hc⟩ := PersistentState.latestCommittedConfiguration_mem hlatest
    have hkey : c.epoch = e := h.keyed e c hc
    have hprep := h.committed e he
    obtain ⟨s, hs⟩ := Finmap.mem_iff.mp (hkey ▸ hprep.2)
    obtain ⟨c', hc'⟩ := Option.isSome_iff_exists.mp
      (sendAll_isSome (PersistentState.rackId_isSome_of_mem hprep.1)
        (c.members.keys.ascending.filter (· ∈ ctx.connected)) (.getShare c.epoch))
    simp [hs, hc']

theorem onConnect_spec {sc : ShareCollector ι} {ctx ctx' : NodeCtx ι} {peer : ι}
    (h : sc.onConnect ctx peer = some ctx') :
    SendsOnly ctx ctx' ∧ Queues ctx ctx' (AsksForShare ctx.platformId) := by
  unfold onConnect at h
  split_ifs at h
  · exact ⟨send_sendsOnly h, (send_queues h).mono fun _ h => ⟨h.1, _, h.2.2⟩⟩
  · cases h
    exact ⟨SendsOnly.refl ctx, Queues.refl ctx _⟩

theorem handleShare_spec {sc sc' : ShareCollector ι} {ctx ctx' : NodeCtx ι} {sender : ι}
    {epoch : Nat} {share : Share} {loaded : Option (Finmap fun _ : Nat => ReconstructedRackSecret)}
    (h : sc.handleShare P ctx sender epoch share = some (sc', ctx', loaded)) :
    ctx'.persistentState = ctx.persistentState ∧ ctx'.outgoing = ctx.outgoing ∧
      ctx'.platformId = ctx.platformId := by
  unfold handleShare at h
  dsimp only at h
  -- every branch returns the context it was given, or that context with an alarm
  have hret : ∀ c : NodeCtx ι, c.persistentState = ctx.persistentState →
      c.outgoing = ctx.outgoing → c.platformId = ctx.platformId →
      ∀ (sc₁ : ShareCollector ι) l₁, some (sc₁, c, l₁) = some (sc', ctx', loaded) →
      ctx'.persistentState = ctx.persistentState ∧ ctx'.outgoing = ctx.outgoing ∧
        ctx'.platformId = ctx.platformId := by
    intro c h1 h2 h3 sc₁ l₁ he
    simp only [Option.some.injEq, Prod.mk.injEq] at he
    obtain ⟨-, rfl, -⟩ := he
    exact ⟨h1, h2, h3⟩
  split_ifs at h
  · exact hret ctx rfl rfl rfl _ _ h
  · exact hret ctx rfl rfl rfl _ _ h
  · exact hret ctx rfl rfl rfl _ _ h
  · split at h
    · split at h
      · simp only [Option.bind_eq_bind, Option.bind_eq_some_iff] at h
        obtain ⟨_, _, h⟩ := h
        split at h
        · exact hret ctx rfl rfl rfl _ _ h
        · exact hret (ctx.raiseAlarm _) rfl rfl rfl _ _ h
      · exact hret ctx rfl rfl rfl _ _ h
    · exact hret (ctx.raiseAlarm _) rfl rfl rfl _ _ h

end ShareCollector

namespace RackSecretLoader

/-- A collection that starts leaves the context as it was, when `ShareCollector::new` fails, or as
    `ShareCollector::new` left it. -/
theorem restart_spec {ctx ctx' : NodeCtx ι}
    {res : Except LoadRackSecretError (ShareCollector ι × NodeCtx ι)}
    (hres : ShareCollector.new ctx = some res) (h : ctx' = ctx ∨ ∃ c, res = .ok (c, ctx')) :
    ctx'.persistentState = ctx.persistentState ∧ Queues ctx ctx' (AsksForShare ctx.platformId) := by
  rcases h with rfl | ⟨c, hc⟩
  · exact ⟨rfl, Queues.refl _ _⟩
  · have := ShareCollector.new_spec hres _ _ hc
    exact ⟨this.1.persistentState, this.2⟩

/-- **`RackSecretLoader::load`** writes nothing and only asks for shares. -/
theorem load_spec {l l' : RackSecretLoader ι} {ctx ctx' : NodeCtx ι} {epoch : Nat}
    {r : Except LoadRackSecretError (Option ReconstructedRackSecret)}
    (h : l.load ctx epoch = some (r, l', ctx')) :
    ctx'.persistentState = ctx.persistentState ∧ Queues ctx ctx' (AsksForShare ctx.platformId) := by
  unfold load at h
  split at h
  · simp only [Option.some.injEq, Prod.mk.injEq] at h
    obtain ⟨-, -, rfl⟩ := h
    exact ⟨rfl, Queues.refl ctx _⟩
  · split at h
    · simp only [Option.some.injEq, Prod.mk.injEq] at h
      obtain ⟨-, -, rfl⟩ := h
      exact ⟨rfl, Queues.refl ctx _⟩
    · split_ifs at h
      all_goals first
        | (simp only [Option.some.injEq, Prod.mk.injEq] at h
           obtain ⟨-, -, rfl⟩ := h
           exact ⟨rfl, Queues.refl ctx _⟩)
        | skip
      split at h
      · -- no collection yet: one starts
        simp only [Option.bind_eq_bind, Option.bind_eq_some_iff] at h
        obtain ⟨res, hres, h⟩ := h
        refine restart_spec hres ?_
        split at h <;> simp_all
      · split_ifs at h
        · simp only [Option.some.injEq, Prod.mk.injEq] at h
          obtain ⟨-, -, rfl⟩ := h
          exact ⟨rfl, Queues.refl ctx _⟩
        · -- a collection for an older epoch: a new one starts
          simp only [Option.bind_eq_bind, Option.bind_eq_some_iff] at h
          obtain ⟨res, hres, h⟩ := h
          refine restart_spec hres ?_
          split at h <;> simp_all
        · simp only [Option.some.injEq, Prod.mk.injEq] at h
          obtain ⟨-, -, rfl⟩ := h
          exact ⟨rfl, raiseAlarm_queues ctx _ _⟩

theorem handleShare_spec {l l' : RackSecretLoader ι} {ctx ctx' : NodeCtx ι} {sender : ι}
    {epoch : Nat} {share : Share} (h : l.handleShare P ctx sender epoch share = some (l', ctx')) :
    ctx'.persistentState = ctx.persistentState ∧ ctx'.outgoing = ctx.outgoing ∧
      ctx'.platformId = ctx.platformId := by
  unfold handleShare at h
  split_ifs at h
  · cases h
    exact ⟨rfl, rfl, rfl⟩
  · split at h
    · cases h
      exact ⟨rfl, rfl, rfl⟩
    · simp only [Option.bind_eq_bind, Option.bind_eq_some_iff] at h
      obtain ⟨⟨sc, ctx₁, loaded⟩, hsc, h⟩ := h
      have h₁ := ShareCollector.handleShare_spec hsc
      split at h <;>
      · simp only [Option.pure_def, Option.some.injEq, Prod.mk.injEq] at h
        obtain ⟨-, rfl⟩ := h
        exact h₁

theorem onConnect_spec {l : RackSecretLoader ι} {ctx ctx' : NodeCtx ι} {peer : ι}
    (h : l.onConnect ctx peer = some ctx') :
    SendsOnly ctx ctx' ∧ Queues ctx ctx' (AsksForShare ctx.platformId) := by
  unfold onConnect at h
  split at h
  · exact ShareCollector.onConnect_spec h
  · cases h
    exact ⟨SendsOnly.refl ctx, Queues.refl ctx _⟩

end RackSecretLoader

/-! ## 2. What passing validation means -/

theorem checkInService_eq_ok {ps : PersistentStateSummary ι} {u : Unit}
    (h : checkInService ps = .ok u) : ps.expunged = none := by
  unfold checkInService at h
  split at h
  · cases h
  · assumption

theorem ValidatedReconfigureMsg.checkEpoch_eq_ok {msg : ReconfigureMsg ι}
    {ps : PersistentStateSummary ι} {u : Unit} (h : ValidatedReconfigureMsg.checkEpoch msg ps = .ok u) :
    msg.lastCommittedEpoch = ps.latestCommittedConfig ∧
      ∀ l, ps.latestConfig = some l → l < msg.epoch := by
  unfold ValidatedReconfigureMsg.checkEpoch at h
  split_ifs at h with hlce
  refine ⟨not_not.mp hlce, fun l hl => ?_⟩
  simp only [hl] at h
  split_ifs at h with hle
  exact Nat.lt_of_not_le hle

theorem ValidatedLrtqUpgradeMsg.checkEpoch_eq_ok {ps : PersistentState ι} {msg : LrtqUpgradeMsg ι}
    {u : Unit} (h : ValidatedLrtqUpgradeMsg.checkEpoch ps msg = .ok u) :
    2 ≤ msg.epoch ∧ ∀ c, ps.latestConfig = some c → c.epoch < msg.epoch := by
  unfold ValidatedLrtqUpgradeMsg.checkEpoch at h
  split_ifs at h with h2
  refine ⟨Nat.le_of_not_lt h2, fun c hc => ?_⟩
  simp only [hc] at h
  split_ifs at h with hle
  exact Nat.lt_of_not_le hle

theorem ValidatedReconfigureMsg.checkMembershipSizes_eq_ok {msg : ReconfigureMsg ι} {u : Unit}
    (h : ValidatedReconfigureMsg.checkMembershipSizes msg = .ok u) :
    checkSizes msg.members.card msg.threshold = none := by
  unfold ValidatedReconfigureMsg.checkMembershipSizes at h
  split at h
  · assumption
  all_goals cases h

/-- Every check of `ValidatedReconfigureMsg::new` that a new request passed, in the source's
    order. -/
theorem ValidatedReconfigureMsg.new_eq_ok_some {pid : ι} {msg : ReconfigureMsg ι}
    {ps : PersistentStateSummary ι} {last : Option (ValidatedReconfigureMsg ι)}
    {v : ValidatedReconfigureMsg ι}
    (h : ValidatedReconfigureMsg.new pid msg ps last = .ok (some v)) :
    v = ⟨msg.rackId, msg.epoch, msg.lastCommittedEpoch, msg.members, msg.threshold, pid⟩ ∧
    ps.isLrtqOnly = false ∧ pid ∈ msg.members ∧ checkSizes msg.members.card msg.threshold = none ∧
    checkRackId msg.rackId ps = .ok () ∧ ps.expunged = none ∧
    ValidatedReconfigureMsg.checkEpoch msg ps = .ok () ∧
    ValidatedReconfigureMsg.checkExistingCoordination msg last = .ok false := by
  simp only [ValidatedReconfigureMsg.new, bind, Except.bind, pure, Except.pure] at h
  split_ifs at h with hl hm
  -- the checks in the source's order, each of which passed
  split at h
  · cases h
  rename_i hsizes
  split at h
  · cases h
  rename_i hrack
  split at h
  · cases h
  rename_i hserv
  split at h
  · cases h
  rename_i hepoch
  split at h
  · cases h
  rename_i b hex
  split_ifs at h with hb
  · simp at h
  simp only [Except.ok.injEq, Option.some.injEq] at h
  simp only [Bool.not_eq_true] at hl hb
  subst h hb
  exact ⟨rfl, hl, hm, ValidatedReconfigureMsg.checkMembershipSizes_eq_ok hsizes, hrack,
    checkInService_eq_ok hserv, hepoch, hex⟩

/-- **`ValidatedReconfigureMsg::new`**, when it accepts a new request: the request as it came,
    coordinated by us, a member; we are in service and not LRTQ-only, our last commit is the
    request's, and every configuration we know is older than the request. -/
theorem ValidatedReconfigureMsg.new_spec {pid : ι} {msg : ReconfigureMsg ι}
    {ps : PersistentState ι} {last : Option (ValidatedReconfigureMsg ι)}
    {v : ValidatedReconfigureMsg ι}
    (h : ValidatedReconfigureMsg.new pid msg ps.summary last = .ok (some v)) :
    v = ⟨msg.rackId, msg.epoch, msg.lastCommittedEpoch, msg.members, msg.threshold, pid⟩ ∧
    pid ∈ msg.members ∧ ps.expunged = none ∧
    msg.lastCommittedEpoch = ps.latestCommittedEpoch ∧
    ∀ c, ps.latestConfig = some c → c.epoch < msg.epoch := by
  obtain ⟨rfl, -, hm, -, -, hexp, hepoch, -⟩ := ValidatedReconfigureMsg.new_eq_ok_some h
  obtain ⟨hlce, hlatest⟩ := ValidatedReconfigureMsg.checkEpoch_eq_ok hepoch
  refine ⟨rfl, hm, hexp, hlce, fun c hc => ?_⟩
  exact hlatest c.epoch (by simp [PersistentState.summary, hc])

theorem ValidatedLrtqUpgradeMsg.checkMembershipSizes_eq_ok {msg : LrtqUpgradeMsg ι} {u : Unit}
    (h : ValidatedLrtqUpgradeMsg.checkMembershipSizes msg = .ok u) :
    checkSizes msg.members.card msg.threshold = none := by
  unfold ValidatedLrtqUpgradeMsg.checkMembershipSizes at h
  split at h
  · assumption
  all_goals cases h

/-- Every check of `ValidatedLrtqUpgradeMsg::new` that an accepted request passed, in the
    source's order. -/
theorem ValidatedLrtqUpgradeMsg.new_eq_ok {pid : ι} {ps : PersistentState ι}
    {msg : LrtqUpgradeMsg ι} {v : ValidatedLrtqUpgradeMsg ι}
    (h : ValidatedLrtqUpgradeMsg.new pid ps msg = .ok v) :
    v = ⟨msg.rackId, msg.epoch, msg.members, msg.threshold, pid⟩ ∧ ps.expunged = none ∧
    checkRackId msg.rackId ps.summary = .ok () ∧ ps.lrtq.isSome ∧ ps.latestCommittedEpoch = none ∧
    pid ∈ msg.members ∧ checkSizes msg.members.card msg.threshold = none ∧
    ValidatedLrtqUpgradeMsg.checkEpoch ps msg = .ok () := by
  unfold ValidatedLrtqUpgradeMsg.new at h
  split at h
  · cases h
  rename_i hexp
  split at h
  · cases h
  rename_i hrack
  split_ifs at h with hl hm
  case neg => split at h <;> cases h
  split at h
  · cases h
  rename_i hlce
  simp only [bind, Except.bind, pure, Except.pure] at h
  split at h
  · cases h
  rename_i hsizes
  split at h
  · cases h
  rename_i hepoch
  simp only [Except.ok.injEq] at h
  subst h
  exact ⟨rfl, hexp, hrack, Option.isSome_iff_ne_none.mpr (by simpa using hl), hlce, hm,
    ValidatedLrtqUpgradeMsg.checkMembershipSizes_eq_ok hsizes, hepoch⟩

/-- **`ValidatedLrtqUpgradeMsg::new`**, when it accepts: the request as it came, coordinated by us,
    a member; we are in service, have committed nothing, and every configuration we know is older
    than the request, itself at least epoch 2. -/
theorem ValidatedLrtqUpgradeMsg.new_spec {pid : ι} {ps : PersistentState ι}
    {msg : LrtqUpgradeMsg ι} {v : ValidatedLrtqUpgradeMsg ι}
    (h : ValidatedLrtqUpgradeMsg.new pid ps msg = .ok v) :
    v = ⟨msg.rackId, msg.epoch, msg.members, msg.threshold, pid⟩ ∧
    pid ∈ msg.members ∧ ps.expunged = none ∧ ps.latestCommittedEpoch = none ∧
    2 ≤ msg.epoch ∧ ∀ c, ps.latestConfig = some c → c.epoch < msg.epoch := by
  obtain ⟨rfl, hexp, -, -, hlce, hm, -, hepoch⟩ := ValidatedLrtqUpgradeMsg.new_eq_ok h
  obtain ⟨h2, hlatest⟩ := ValidatedLrtqUpgradeMsg.checkEpoch_eq_ok hepoch
  exact ⟨rfl, hm, hexp, hlce, h2, hlatest⟩

/-! ## 3. What a node says -/

namespace Node

/-- What a node may have sent to `dest` in a call, read in its roles and persistent state after
    the call. -/
def MaySay (n : Node ι) (ps : PersistentState ι) (dest : ι) : PeerMsgKind ι → Prop
  | .prepareAck e => ps.hasPrepared e
  | .prepare c s => ∃ cs, n.coordinatorState = some cs ∧ cs.MaySend dest (.prepare c s)
  | .commitAdvance c => ∃ e ∈ ps.commits, ps.configs.lookup e = some c
  | .share e s => ps.shares.lookup e = some s
  | .lrtqShare s => ∃ d, ps.lrtq = some d ∧ d.share = s
  | .expunged _ | .getShare _ | .getLrtqShare => True

/-- The envelopes a node `pid` queued in a call. -/
def Says (pid : ι) (n : Node ι) (ps : PersistentState ι) (env : Envelope ι) : Prop :=
  env.sender = pid ∧ MaySay n ps env.dest env.msg.kind

theorem says_of_asksForShare {pid : ι} {n : Node ι} {ps : PersistentState ι} {env : Envelope ι}
    (h : AsksForShare pid env) : Says pid n ps env := by
  obtain ⟨hs, e, hk⟩ := h
  refine ⟨hs, ?_⟩
  rw [hk]
  trivial

theorem says_of_coordinator {pid : ι} {n : Node ι} {ps : PersistentState ι} {env : Envelope ι}
    {cs : CoordinatorState ι} (hcs : n.coordinatorState = some cs) (h : cs.Says pid env) :
    Says pid n ps env := by
  obtain ⟨hs, hm⟩ := h
  refine ⟨hs, ?_⟩
  revert hm
  cases env.msg.kind <;> simp only [CoordinatorState.MaySend, MaySay, imp_self, implies_true,
    false_implies]
  exact fun hm => ⟨cs, hcs, hm⟩

theorem sendCoordinatorMsgs_spec {n : Node ι} {ctx ctx' : NodeCtx ι}
    (h : n.sendCoordinatorMsgs ctx = some ctx') :
    SendsOnly ctx ctx' ∧ ∀ ps, Queues ctx ctx' (Says ctx.platformId n ps) := by
  unfold sendCoordinatorMsgs at h
  split at h
  · rename_i cs hcs
    obtain ⟨h1, h2⟩ := CoordinatorState.sendMsgs_spec h
    exact ⟨h1, fun ps => h2.mono fun _ h => says_of_coordinator hcs h⟩
  · cases h
    exact ⟨SendsOnly.refl ctx, fun _ => Queues.refl ctx _⟩

theorem sendCoordinatorMsgsTo_spec {n : Node ι} {ctx ctx' : NodeCtx ι} {peer : ι}
    (h : n.sendCoordinatorMsgsTo ctx peer = some ctx') :
    SendsOnly ctx ctx' ∧ ∀ ps, Queues ctx ctx' (Says ctx.platformId n ps) := by
  unfold sendCoordinatorMsgsTo at h
  split at h
  · rename_i cs hcs
    obtain ⟨h1, h2⟩ := CoordinatorState.sendMsgsTo_spec h
    exact ⟨h1, fun ps => h2.mono fun _ h => says_of_coordinator hcs h⟩
  · cases h
    exact ⟨SendsOnly.refl ctx, fun _ => Queues.refl ctx _⟩

/-- A reply: one send, and nothing else. -/
theorem reply_spec {n n' : Node ι} {ctx ctx' : NodeCtx ι} {dest : ι} {kind : PeerMsgKind ι}
    (h : ((ctx.send dest kind).bind fun c => pure (n, c)) = some (n', ctx')) :
    n' = n ∧ SendsOnly ctx ctx' ∧ Queues ctx ctx' fun env =>
      env.sender = ctx.platformId ∧ env.dest = dest ∧ env.msg.kind = kind := by
  simp only [Option.bind_eq_some_iff, Option.pure_def, Option.some.injEq, Prod.mk.injEq] at h
  obtain ⟨c, hc, rfl, rfl⟩ := h
  exact ⟨rfl, send_sendsOnly hc, send_queues hc⟩

/-- A reply the node's state backs. -/
theorem reply_says {n n' : Node ι} {ctx ctx' : NodeCtx ι} {dest : ι} {kind : PeerMsgKind ι}
    (h : ((ctx.send dest kind).bind fun c => pure (n, c)) = some (n', ctx'))
    (hm : MaySay n ctx.persistentState dest kind) :
    n' = n ∧ SendsOnly ctx ctx' ∧ Queues ctx ctx' (Says ctx.platformId n ctx.persistentState) := by
  obtain ⟨rfl, h₁, h₂⟩ := reply_spec h
  exact ⟨rfl, h₁, h₂.mono fun env ⟨hs, hd, hk⟩ => ⟨hs, by rw [hd, hk]; exact hm⟩⟩

/-- No reply. -/
theorem noReply {n n' : Node ι} {ctx ctx' : NodeCtx ι} {ps : PersistentState ι}
    (h : (pure (n, ctx) : Option (Node ι × NodeCtx ι)) = some (n', ctx')) :
    n' = n ∧ SendsOnly ctx ctx' ∧ Queues ctx ctx' (Says ctx.platformId n ps) := by
  simp only [Option.pure_def, Option.some.injEq, Prod.mk.injEq] at h
  obtain ⟨rfl, rfl⟩ := h
  exact ⟨rfl, SendsOnly.refl ctx, Queues.refl ctx _⟩

/-! ## 4. Requests for shares: replies only -/

/-- **`Node::handle_get_share`**: only replies -- `CommitAdvance` with our latest committed
    configuration, `Expunged`, or our share. -/
theorem handleGetShare_spec {n n' : Node ι} {ctx ctx' : NodeCtx ι} {sender : ι} {epoch : Nat}
    (h : n.handleGetShare ctx sender epoch = some (n', ctx')) :
    n' = n ∧ SendsOnly ctx ctx' ∧ Queues ctx ctx' (Says ctx.platformId n ctx.persistentState) := by
  unfold handleGetShare at h
  simp only [Option.bind_eq_bind, Option.bind_eq_some_iff] at h
  obtain ⟨latest, hlatest, h⟩ := h
  split at h
  on_goal 1 =>
    split_ifs at h
    on_goal 1 => exact reply_says h (PersistentState.latestCommittedConfiguration_mem hlatest)
    on_goal 1 => exact reply_says h trivial
  -- what remains, twice, is a request for an epoch that is not stale
  all_goals
    split at h
    · split_ifs at h
      · split at h
        · exact reply_says h ‹_›
        · exact noReply h
      · exact reply_says h trivial
    · split at h
      · exact reply_says h ‹_›
      · exact noReply h

theorem lrtqShareNew_eq {share s : List UInt8} (h : CoordinatorState.lrtqShareNew share = some s) :
    s = share := by
  unfold CoordinatorState.lrtqShareNew at h
  split_ifs at h
  exact (Option.some.inj h).symm

/-- **`Node::handle_get_lrtq_share`**: only replies -- `CommitAdvance` or `Expunged` after a
    commit, our LRTQ share before. -/
theorem handleGetLrtqShare_spec {n n' : Node ι} {ctx ctx' : NodeCtx ι} {sender : ι}
    (h : n.handleGetLrtqShare ctx sender = some (n', ctx')) :
    n' = n ∧ SendsOnly ctx ctx' ∧ Queues ctx ctx' (Says ctx.platformId n ctx.persistentState) := by
  unfold handleGetLrtqShare at h
  simp only [Option.bind_eq_bind, Option.bind_eq_some_iff] at h
  obtain ⟨latest, hlatest, h⟩ := h
  split at h
  · split_ifs at h
    · exact reply_says h (PersistentState.latestCommittedConfiguration_mem hlatest)
    · exact reply_says h trivial
  · split at h
    · rename_i d hd
      cases hs : CoordinatorState.lrtqShareNew d.share with
      | none => simp [hs] at h
      | some share =>
        simp only [hs] at h
        exact reply_says h ⟨d, hd, (lrtqShareNew_eq hs).symm⟩
    · exact noReply h

/-! ## 5. Messages from peers -/

/-- A coordinator survives a cancellation exactly when it fails the test. -/
theorem cancelCoordinationIf_coordinatorState {n : Node ι} {stale : CoordinatorState ι → Bool}
    {cs : CoordinatorState ι} :
    (n.cancelCoordinationIf stale).coordinatorState = some cs ↔
      n.coordinatorState = some cs ∧ stale cs = false := by
  unfold cancelCoordinationIf
  split
  · rename_i c hc
    split_ifs with hs
    · simp only [false_iff, not_and, hc, Option.some.injEq]
      rintro rfl
      simp [hs]
    · simp only [hc, Option.some.injEq]
      constructor
      · rintro rfl
        exact ⟨rfl, by simpa using hs⟩
      · rintro ⟨rfl, -⟩
        rfl
  · simp_all

@[simp] theorem cancelCoordinationIf_keyShareComputer (n : Node ι)
    (stale : CoordinatorState ι → Bool) :
    (n.cancelCoordinationIf stale).keyShareComputer = n.keyShareComputer := by
  unfold cancelCoordinationIf
  split <;> (try split_ifs) <;> rfl

@[simp] theorem cancelCoordinationIf_rackSecretLoader (n : Node ι)
    (stale : CoordinatorState ι → Bool) :
    (n.cancelCoordinationIf stale).rackSecretLoader = n.rackSecretLoader := by
  unfold cancelCoordinationIf
  split <;> (try split_ifs) <;> rfl

theorem eq_of_some_eq {n n' : Node ι} {ctx ctx' : NodeCtx ι}
    (h : some (n, ctx) = some (n', ctx')) : n' = n ∧ ctx' = ctx := by
  simp only [Option.some.injEq, Prod.mk.injEq] at h
  exact ⟨h.1.symm, h.2.symm⟩

/-- **`Node::handle_prepare_ack`**: the acknowledgement goes to the coordinator of its epoch. -/
theorem handlePrepareAck_spec (n : Node ι) (sender : ι) (epoch : Nat) :
    (n.handlePrepareAck sender epoch).keyShareComputer = n.keyShareComputer ∧
    (n.handlePrepareAck sender epoch).rackSecretLoader = n.rackSecretLoader ∧
    (n.handlePrepareAck sender epoch).coordinatorState =
      n.coordinatorState.map fun cs => if cs.msg.epoch = epoch then cs.ackPrepare sender else cs := by
  unfold handlePrepareAck
  split
  · rename_i cs hcs
    split_ifs with he
    · simp [hcs, he]
    · simp [hcs, he]
  · simp_all

/-- **`Node::handle_expunged`**: nothing, or -- for an epoch at least the latest configuration's --
    the expungement is recorded and both roles stop. -/
theorem handleExpunged_spec (n : Node ι) (ctx : NodeCtx ι) (sender : ι) (epoch : Nat) :
    n.handleExpunged ctx sender epoch = (n, ctx) ∨
    ∃ c, ctx.persistentState.latestConfig = some c ∧ c.epoch ≤ epoch ∧
      n.handleExpunged ctx sender epoch =
        ({ n with coordinatorState := none, keyShareComputer := none },
          ctx.updatePersistentState (·.expunge ⟨epoch, sender⟩)) := by
  unfold handleExpunged
  split
  · rename_i c hc
    split_ifs with hlt
    · exact .inl rfl
    · exact .inr ⟨c, hc, Nat.le_of_not_lt hlt, rfl⟩
  · exact .inl rfl

/-- **`Node::handle_prepare`**: nothing (a later epoch is committed, or we are not a member), or
    the share and -- unless one is saved -- the configuration are saved, coordination of an
    older epoch stops, and the acknowledgement is queued. -/
theorem handlePrepare_spec {n n' : Node ι} {ctx ctx' : NodeCtx ι} {sender : ι}
    {config : Configuration ι} {share : Share}
    (h : n.handlePrepare ctx sender config share = some (n', ctx')) :
    (n' = n ∧ ctx' = ctx) ∨
    (ctx.platformId ∈ config.members ∧
      ctx.persistentState.latestCommittedEpoch.getD 0 ≤ config.epoch ∧
      ctx'.persistentState = ctx.persistentState.savePrepare config share ∧
      n'.keyShareComputer = n.keyShareComputer ∧ n'.rackSecretLoader = n.rackSecretLoader ∧
      (∀ cs, n'.coordinatorState = some cs ↔
        n.coordinatorState = some cs ∧ config.epoch ≤ cs.msg.epoch) ∧
      Queues ctx ctx' fun env => env.sender = ctx.platformId ∧ env.dest = sender ∧
        env.msg.kind = .prepareAck config.epoch) := by
  unfold handlePrepare at h
  dsimp only at h
  split_ifs at h with hstale hmem
  -- a stale prepare, and one for a configuration we are not in, change nothing
  all_goals first
    | exact .inl (eq_of_some_eq h)
    | skip
  · simp only [Option.bind_eq_bind, Option.bind_eq_some_iff, Option.pure_def, Option.some.injEq,
      Prod.mk.injEq] at h
    obtain ⟨c, hc, rfl, rfl⟩ := h
    refine .inr ⟨hmem, Nat.le_of_not_lt hstale, (send_sendsOnly hc).persistentState,
      ?_, ?_, fun cs => ?_, (updatePersistentState_queues ctx _ _).trans (send_queues hc)⟩
    · exact cancelCoordinationIf_keyShareComputer n _
    · exact cancelCoordinationIf_rackSecretLoader n _
    · simp [cancelCoordinationIf_coordinatorState]

/-- **`Node::handle_share`**: to the coordinator, if coordinating -- a step that continues its
    phase or jumps to preparing; else to the key share computer -- which writes nothing or its
    computed share with the commit, and is dropped once done; in both cases also to the loader,
    which writes and sends nothing. -/
theorem handleShare_spec {n n' : Node ι} {ctx ctx' : NodeCtx ι} {sender : ι} {epoch : Nat}
    {share : Share} {salt : Salt}
    (h : n.handleShare P ctx sender epoch share salt = some (n', ctx')) :
    (∃ cs cs', n.coordinatorState = some cs ∧ n'.coordinatorState = some cs' ∧
      n'.keyShareComputer = n.keyShareComputer ∧
      ((CoordinatorState.Continues cs cs' ∧ ctx'.persistentState = ctx.persistentState ∧
          ctx'.outgoing = ctx.outgoing ∧ ctx'.platformId = ctx.platformId) ∨
        CoordinatorState.Jumps cs cs' ctx ctx')) ∨
    (n.coordinatorState = none ∧ n'.coordinatorState = none ∧
      (∀ k', n'.keyShareComputer = some k' →
        ∃ k, n.keyShareComputer = some k ∧ k'.config = k.config) ∧
      ctx'.outgoing = ctx.outgoing ∧ ctx'.platformId = ctx.platformId ∧
      (ctx'.persistentState = ctx.persistentState ∨
        ∃ k s, n.keyShareComputer = some k ∧ epoch = k.config.epoch ∧
          ctx'.persistentState = ctx.persistentState.saveShareAndCommit epoch s)) := by
  unfold handleShare at h
  simp only [Option.bind_eq_bind, Option.bind_eq_some_iff, Option.pure_def, Option.some.injEq,
    Prod.mk.injEq] at h
  obtain ⟨⟨n₁, ctx₁⟩, h₁, ⟨l, ctx₂⟩, hl, rfl, rfl⟩ := h
  obtain ⟨hlps, hlout, hlpid⟩ := RackSecretLoader.handleShare_spec hl
  unfold handleShare.toRole at h₁
  split at h₁
  · rename_i cs hcs
    simp only [Option.bind_eq_bind, Option.bind_eq_some_iff, Option.pure_def, Option.some.injEq,
      Prod.mk.injEq] at h₁
    obtain ⟨⟨cs', ctx₃⟩, hcs', rfl, rfl⟩ := h₁
    refine .inl ⟨cs, cs', hcs, rfl, rfl, ?_⟩
    rcases CoordinatorState.handleShare_spec hcs' with ⟨hc, rfl⟩ | hj
    · exact .inl ⟨hc, hlps, hlout, hlpid⟩
    · exact .inr (hj.congr hlps hlout hlpid)
  · rename_i hcs
    split at h₁
    · rename_i k hk
      simp only [Option.bind_eq_bind, Option.bind_eq_some_iff, Option.pure_def, Option.some.injEq,
        Prod.mk.injEq] at h₁
      obtain ⟨⟨k', ctx₃, done⟩, hk', rfl, rfl⟩ := h₁
      obtain ⟨hconf, hres⟩ := KeyShareComputer.handleShare_spec hk'
      refine .inr ⟨hcs, by split <;> exact hcs, fun k₁ hk₁ => ⟨k, hk, ?_⟩, ?_⟩
      · split at hk₁
        · cases hk₁
        · cases hk₁
          exact hconf
      rcases hres with ⟨-, hps, hout, hpid⟩ | ⟨-, he, s, rfl⟩
      · exact ⟨hlout.trans hout, hlpid.trans hpid, .inl (hlps.trans hps)⟩
      · exact ⟨hlout, hlpid, .inr ⟨k, s, hk, he, hlps⟩⟩
    · simp only [Option.pure_def, Option.some.injEq, Prod.mk.injEq] at h₁
      obtain ⟨rfl, rfl⟩ := h₁
      rename_i hk
      exact .inr ⟨hcs, hcs, fun k' hk' => absurd (hk ▸ hk') (by simp), hlout, hlpid, .inl hlps⟩

/-- **`Node::handle_lrtq_share`**: to the coordinator, if coordinating. -/
theorem handleLrtqShare_spec {n n' : Node ι} {ctx ctx' : NodeCtx ι} {sender : ι}
    {share : LrtqShare} {salt : Salt}
    (h : n.handleLrtqShare P ctx sender share salt = some (n', ctx')) :
    (n.coordinatorState = none ∧ n' = n ∧ ctx' = ctx) ∨
    ∃ cs cs', n.coordinatorState = some cs ∧ n' = { n with coordinatorState := some cs' } ∧
      ((CoordinatorState.Continues cs cs' ∧ ctx' = ctx) ∨ CoordinatorState.Jumps cs cs' ctx ctx') := by
  unfold handleLrtqShare at h
  split at h
  · rename_i cs hcs
    simp only [Option.bind_eq_bind, Option.bind_eq_some_iff, Option.pure_def, Option.some.injEq,
      Prod.mk.injEq] at h
    obtain ⟨⟨cs', ctx₁⟩, hcs', rfl, rfl⟩ := h
    exact .inr ⟨cs, cs', hcs, rfl, CoordinatorState.handleLrtqShare_spec hcs'⟩
  · rename_i hcs
    obtain ⟨rfl, rfl⟩ := eq_of_some_eq h
    exact .inl ⟨hcs, rfl, rfl⟩

/-! ## 6. Commits -/

/-- **The fall-through of `handle_commit_advance`**: unless just committed, a new key share
    computer for `config`, which only asks for shares. -/
theorem startComputing_spec {n n' : Node ι} {ctx ctx' : NodeCtx ι} {config : Configuration ι}
    {b : Bool} (h : handleCommitAdvance.startComputing n ctx config b = some (n', ctx')) :
    n'.coordinatorState = n.coordinatorState ∧ n'.rackSecretLoader = n.rackSecretLoader ∧
    (∀ k', n'.keyShareComputer = some k' →
      n.keyShareComputer = some k' ∨ (k'.config = config ∧ b = false)) ∧
    SendsOnly ctx ctx' ∧ Queues ctx ctx' (AsksForShare ctx.platformId) := by
  unfold handleCommitAdvance.startComputing at h
  split_ifs at h with hb
  · simp only [Option.bind_eq_bind, Option.bind_eq_some_iff, Option.pure_def, Option.some.injEq,
      Prod.mk.injEq] at h
    obtain ⟨⟨k, ctx₁⟩, hk, rfl, rfl⟩ := h
    obtain ⟨hconf, hs, hq⟩ := KeyShareComputer.new_spec hk
    refine ⟨rfl, rfl, fun k' hk' => .inr ⟨?_, by simpa using hb⟩, hs, hq⟩
    cases hk'
    exact hconf
  · obtain ⟨rfl, rfl⟩ := eq_of_some_eq h
    exact ⟨rfl, rfl, fun k' hk' => .inl hk', SendsOnly.refl _, Queues.refl _ _⟩

/-- **The second half of `handle_commit_advance`**: nothing is written; coordination of this
    epoch or an older one stops; the key share computer is kept, dropped, or -- unless just
    committed -- replaced by one for `config`, which only asks for shares. -/
theorem advanceRoles_spec {n n' : Node ι} {ctx ctx' : NodeCtx ι} {config : Configuration ι}
    {b : Bool} (h : handleCommitAdvance.advanceRoles n ctx config b = some (n', ctx')) :
    n'.rackSecretLoader = n.rackSecretLoader ∧
    (∀ cs, n'.coordinatorState = some cs ↔
      n.coordinatorState = some cs ∧ config.epoch < cs.msg.epoch) ∧
    (∀ k', n'.keyShareComputer = some k' →
      n.keyShareComputer = some k' ∨ (k'.config = config ∧ b = false)) ∧
    SendsOnly ctx ctx' ∧ Queues ctx ctx' (AsksForShare ctx.platformId) := by
  unfold handleCommitAdvance.advanceRoles at h
  dsimp only at h
  have hcs : ∀ cs, (n.cancelCoordinationIf (·.msg.epoch ≤ config.epoch)).coordinatorState =
      some cs ↔ n.coordinatorState = some cs ∧ config.epoch < cs.msg.epoch := by
    simp [cancelCoordinationIf_coordinatorState]
  -- the key share computer: a later one stays, this epoch's stays unless just committed, an
  -- older one or none makes way for a new one
  split at h
  · rename_i k hk
    rw [cancelCoordinationIf_keyShareComputer] at hk
    split_ifs at h with hgt heq hb
    · obtain ⟨rfl, rfl⟩ := eq_of_some_eq h
      exact ⟨by simp, hcs, fun k' hk' => .inl (by simpa using hk'), SendsOnly.refl _,
        Queues.refl _ _⟩
    · obtain ⟨rfl, rfl⟩ := eq_of_some_eq h
      exact ⟨by simp, hcs, fun k' hk' => by simp at hk', SendsOnly.refl _, Queues.refl _ _⟩
    · obtain ⟨rfl, rfl⟩ := eq_of_some_eq h
      exact ⟨by simp, hcs, fun k' hk' => .inl (by simpa using hk'), SendsOnly.refl _,
        Queues.refl _ _⟩
    · obtain ⟨hc', hl', hk', hs, hq⟩ := startComputing_spec h
      refine ⟨by simp [hl'], fun cs => hc' ▸ hcs cs, fun k' h' => ?_, hs, hq⟩
      rcases hk' k' h' with h'' | h''
      · cases h''
      · exact .inr h''
  · rename_i hk
    obtain ⟨hc', hl', hk', hs, hq⟩ := startComputing_spec h
    refine ⟨by simp [hl'], fun cs => hc' ▸ hcs cs, fun k' h' => ?_, hs, hq⟩
    rcases hk' k' h' with h'' | h''
    · rw [hk] at h''
      cases h''
    · exact .inr h''

/-- Nothing done but perhaps an alarm raised. -/
theorem unchanged_of_eq {n n' : Node ι} {ctx ctx₁ ctx' : NodeCtx ι}
    (h : some (n, ctx₁) = some (n', ctx')) (hps : ctx₁.persistentState = ctx.persistentState)
    (hout : ctx₁.outgoing = ctx.outgoing) (hpid : ctx₁.platformId = ctx.platformId) :
    n' = n ∧ ctx'.persistentState = ctx.persistentState ∧ ctx'.outgoing = ctx.outgoing ∧
      ctx'.platformId = ctx.platformId := by
  obtain ⟨rfl, rfl⟩ := eq_of_some_eq h
  exact ⟨rfl, hps, hout, hpid⟩

/-- **`Node::handle_commit_advance`**: nothing but perhaps an alarm (we are not a member, the
    epoch is committed already, or the configuration differs from the saved one); or, for an
    epoch after our last commit, the commit of a prepared epoch, the saved configuration already
    there, or the configuration newly saved -- and then the roles advance. -/
theorem handleCommitAdvance_spec {n n' : Node ι} {ctx ctx' : NodeCtx ι} {src : CommitSource ι}
    {config : Configuration ι} (h : n.handleCommitAdvance ctx src config = some (n', ctx')) :
    (n' = n ∧ ctx'.persistentState = ctx.persistentState ∧ ctx'.outgoing = ctx.outgoing ∧
      ctx'.platformId = ctx.platformId) ∨
    (ctx.platformId ∈ config.members ∧
      (∀ l, ctx.persistentState.latestCommittedEpoch = some l → l < config.epoch) ∧
      ∃ ctx₁ b, handleCommitAdvance.advanceRoles n ctx₁ config b = some (n', ctx') ∧
        ((b = true ∧ ctx.persistentState.hasPrepared config.epoch ∧
            ctx₁ = ctx.updatePersistentState (·.commit config.epoch)) ∨
          (b = false ∧ ctx.persistentState.configs.lookup config.epoch = some config ∧
            ctx₁ = ctx) ∨
          (b = false ∧ config.epoch ∉ ctx.persistentState.configs ∧
            ctx₁ = ctx.updatePersistentState (·.saveConfig config)))) := by
  unfold handleCommitAdvance at h
  dsimp only at h
  split_ifs at h with hmem hstale hprep
  -- not a member, or already committed: nothing
  all_goals first
    | exact .inl (unchanged_of_eq h rfl rfl rfl)
    | skip
  all_goals
    have hlce : ∀ l, ctx.persistentState.latestCommittedEpoch = some l → l < config.epoch := by
      intro l hl
      simp only [hl, Option.any_some, decide_eq_true_eq, not_le] at hstale
      exact hstale
  · exact .inr ⟨hmem, hlce, _, true, h, .inl ⟨rfl, hprep, rfl⟩⟩
  · split at h
    · rename_i existing hexisting
      split_ifs at h with hne
      · exact .inl (unchanged_of_eq h rfl rfl rfl)
      · exact .inr ⟨hmem, hlce, _, false, h, .inr (.inl ⟨rfl, not_not.mp hne ▸ hexisting, rfl⟩)⟩
    · rename_i hnone
      refine .inr ⟨hmem, hlce, _, false, h, .inr (.inr ⟨rfl, ?_, rfl⟩)⟩
      exact Finmap.lookup_eq_none.mp hnone

/-- **`Node::prepare_and_commit`**: refused when expunged or for another rack; otherwise the
    commit of a configuration seen from Nexus. -/
theorem prepareAndCommit_spec {n n' : Node ι} {ctx ctx' : NodeCtx ι} {config : Configuration ι}
    {r : Except (PrepareAndCommitError ι) Unit}
    (h : n.prepareAndCommit ctx config = some (r, n', ctx')) :
    (n' = n ∧ ctx' = ctx) ∨
    (ctx.persistentState.expunged = none ∧
      n.handleCommitAdvance ctx .nexus config = some (n', ctx')) := by
  -- the commit, with its result dropped
  have hmap : (n.handleCommitAdvance ctx .nexus config).map
      (fun (p : Node ι × NodeCtx ι) => ((.ok () : Except (PrepareAndCommitError ι) Unit), p.1, p.2))
        = some (r, n', ctx') → n.handleCommitAdvance ctx .nexus config = some (n', ctx') := by
    intro hm
    obtain ⟨⟨n₁, ctx₁⟩, h₁, he⟩ := Option.map_eq_some_iff.mp hm
    simp only [Prod.mk.injEq] at he
    obtain ⟨-, rfl, rfl⟩ := he
    exact h₁
  unfold prepareAndCommit at h
  dsimp only at h
  split at h
  · simp only [Option.some.injEq, Prod.mk.injEq] at h
    exact .inl ⟨h.2.1.symm, h.2.2.symm⟩
  · rename_i hexp
    split at h
    · split_ifs at h
      · simp only [Option.some.injEq, Prod.mk.injEq] at h
        exact .inl ⟨h.2.1.symm, h.2.2.symm⟩
      · exact .inr ⟨hexp, hmap h⟩
    · exact .inr ⟨hexp, hmap h⟩

/-- **`Node::commit_configuration`**: nothing (expunged, another rack, a stale or repeated
    commit, an unprepared epoch), or the commit of a prepared epoch, which ends coordination of
    that epoch. -/
theorem commitConfiguration_spec {n n' : Node ι} {ctx ctx' : NodeCtx ι} {rackId : RackUuid}
    {epoch : Nat} {r : Except (CommitError ι) Unit}
    (h : n.commitConfiguration ctx rackId epoch = some (r, n', ctx')) :
    (n' = n ∧ ctx' = ctx) ∨
    (ctx.persistentState.expunged = none ∧ ctx.persistentState.hasPrepared epoch ∧
      n' = n.cancelCoordinationIf (·.msg.epoch = epoch) ∧
      ctx' = ctx.updatePersistentState (·.commit epoch)) := by
  have hchecked : commitConfiguration.commitChecked n ctx epoch = some (r, n', ctx') →
      (n' = n ∧ ctx' = ctx) ∨ (ctx.persistentState.hasPrepared epoch ∧
        n' = n.cancelCoordinationIf (·.msg.epoch = epoch) ∧
        ctx' = ctx.updatePersistentState (·.commit epoch)) := by
    intro hc
    unfold commitConfiguration.commitChecked at hc
    simp only [Option.bind_eq_bind, Option.bind_eq_some_iff] at hc
    obtain ⟨latest, -, hc⟩ := hc
    split_ifs at hc with hstale hprep
    -- a stale or repeated commit, and an unprepared epoch, change nothing
    all_goals
      simp only [Option.pure_def, Option.some.injEq, Prod.mk.injEq] at hc
      first
        | exact .inl ⟨hc.2.1.symm, hc.2.2.symm⟩
        | exact .inr ⟨hprep, hc.2.1.symm, hc.2.2.symm⟩
  unfold commitConfiguration at h
  dsimp only at h
  split at h
  · simp only [Option.some.injEq, Prod.mk.injEq] at h
    exact .inl ⟨h.2.1.symm, h.2.2.symm⟩
  · rename_i hexp
    have hok : commitConfiguration.commitChecked n ctx epoch = some (r, n', ctx') →
        (n' = n ∧ ctx' = ctx) ∨ (ctx.persistentState.expunged = none ∧
          ctx.persistentState.hasPrepared epoch ∧
          n' = n.cancelCoordinationIf (·.msg.epoch = epoch) ∧
          ctx' = ctx.updatePersistentState (·.commit epoch)) :=
      fun hc => (hchecked hc).imp id fun h' => ⟨hexp, h'⟩
    split at h
    · split_ifs at h
      · simp only [Option.some.injEq, Prod.mk.injEq] at h
        exact .inl ⟨h.2.1.symm, h.2.2.symm⟩
      · exact hok h
    · exact hok h

/-! ## 7. Requests from Nexus -/

/-- **`Node::set_coordinator_state`**: nothing on an error; else a coordinator, started either
    from scratch on an uninitialized node -- its configuration, for a fresh epoch, saved with our
    share at once -- or from the latest committed configuration and our share of it. -/
theorem setCoordinatorState_spec {n n' : Node ι} {ctx ctx' : NodeCtx ι}
    {msg : ValidatedReconfigureMsg ι} {rnd : ConfigRandomness}
    {r : Except (ReconfigurationError ι) Unit}
    (h : n.setCoordinatorState P ctx msg rnd = some (r, n', ctx')) :
    ((∃ e, r = .error e) ∧ n' = n ∧ ctx' = ctx) ∨
    (r = .ok () ∧ ∃ cs, n' = { n with coordinatorState := some cs } ∧
      ((∃ config share,
          CoordinatorState.newUninitialized P msg rnd = some (.ok (cs, config, share)) ∧
          config.epoch ∉ ctx.persistentState.configs ∧
          ctx' = ctx.updatePersistentState (·.saveConfigAndShare config share)) ∨
        (∃ config share,
          ctx.persistentState.latestCommittedConfigAndShare = some (some (config, share)) ∧
          CoordinatorState.newReconfiguration P msg config share rnd = .ok cs ∧ ctx' = ctx))) := by
  unfold setCoordinatorState at h
  split_ifs at h with hu
  · simp only [Option.bind_eq_bind, Option.bind_eq_some_iff] at h
    obtain ⟨res, hres, h⟩ := h
    split at h
    · simp only [Option.pure_def, Option.some.injEq, Prod.mk.injEq] at h
      obtain ⟨rfl, rfl, rfl⟩ := h
      exact .inl ⟨⟨_, rfl⟩, rfl, rfl⟩
    · rename_i cs config share
      split_ifs at h with hfresh
      simp only [Option.pure_def, Option.some.injEq, Prod.mk.injEq] at h
      obtain ⟨rfl, rfl, rfl⟩ := h
      exact .inr ⟨rfl, cs, rfl, .inl ⟨config, share, hres, hfresh, rfl⟩⟩
  · simp only [Option.bind_eq_bind, Option.bind_eq_some_iff] at h
    obtain ⟨latest, hlatest, ⟨config, share⟩, rfl, h⟩ := h
    split at h
    · simp only [Option.pure_def, Option.some.injEq, Prod.mk.injEq] at h
      obtain ⟨rfl, rfl, rfl⟩ := h
      exact .inl ⟨⟨_, rfl⟩, rfl, rfl⟩
    · rename_i cs hcs
      simp only [Option.pure_def, Option.some.injEq, Prod.mk.injEq] at h
      obtain ⟨rfl, rfl, rfl⟩ := h
      exact .inr ⟨rfl, cs, rfl, .inr ⟨config, share, hlatest, hcs, rfl⟩⟩

/-- **`Node::coordinate_reconfiguration`**: nothing (a refused or repeated request); or, for a
    validated request, the key share computer is cancelled and -- unless the coordinator fails
    to start -- a coordinator starts and sends its first messages. -/
theorem coordinateReconfiguration_spec {n n' : Node ι} {ctx ctx' : NodeCtx ι}
    {msg : ReconfigureMsg ι} {rnd : ConfigRandomness} {r : Except (ReconfigurationError ι) Unit}
    (h : n.coordinateReconfiguration P ctx msg rnd = some (r, n', ctx')) :
    (n' = n ∧ ctx' = ctx) ∨
    ∃ v last, ValidatedReconfigureMsg.new ctx.platformId msg ctx.persistentState.summary last =
        .ok (some v) ∧
      ((n' = { n with keyShareComputer := none } ∧ ctx' = ctx) ∨
        ∃ cs ctx₁, n' = { n with coordinatorState := some cs, keyShareComputer := none } ∧
          cs.sendMsgs ctx₁ = some ctx' ∧
          ((∃ config share,
              CoordinatorState.newUninitialized P v rnd = some (.ok (cs, config, share)) ∧
              config.epoch ∉ ctx.persistentState.configs ∧
              ctx₁ = ctx.updatePersistentState (·.saveConfigAndShare config share)) ∨
            (∃ config share,
              ctx.persistentState.latestCommittedConfigAndShare = some (some (config, share)) ∧
              CoordinatorState.newReconfiguration P v config share rnd = .ok cs ∧ ctx₁ = ctx))) := by
  unfold coordinateReconfiguration at h
  dsimp only at h
  -- an upgrade in progress, a refused request and a repeated one change nothing
  split at h
  · simp only [Option.some.injEq, Prod.mk.injEq] at h
    exact .inl ⟨h.2.1.symm, h.2.2.symm⟩
  rename_i last _
  split at h
  · simp only [Option.some.injEq, Prod.mk.injEq] at h
    exact .inl ⟨h.2.1.symm, h.2.2.symm⟩
  · simp only [Option.some.injEq, Prod.mk.injEq] at h
    exact .inl ⟨h.2.1.symm, h.2.2.symm⟩
  rename_i v hv
  simp only [Option.bind_eq_bind, Option.bind_eq_some_iff] at h
  obtain ⟨⟨r₁, n₁, ctx₁⟩, hset, h⟩ := h
  refine .inr ⟨v, last, hv, ?_⟩
  rcases setCoordinatorState_spec hset with ⟨⟨e, rfl⟩, rfl, rfl⟩ | ⟨rfl, cs, rfl, hcs⟩
  · simp only [Option.pure_def, Option.some.injEq, Prod.mk.injEq] at h
    exact .inl ⟨h.2.1.symm, h.2.2.symm⟩
  · simp only [Option.bind_eq_some_iff, Option.pure_def, Option.some.injEq, Prod.mk.injEq] at h
    obtain ⟨ctx₂, hsend, -, rfl, rfl⟩ := h
    exact .inr ⟨cs, ctx₁, rfl, hsend, hcs⟩

/-- **`Node::coordinate_upgrade_from_lrtq`**: nothing for a refused request; for a validated one
    the key share computer is cancelled and -- unless the coordinator fails to start -- a
    coordinator collecting LRTQ shares starts and sends its first messages. -/
theorem coordinateUpgradeFromLrtq_spec {n n' : Node ι} {ctx ctx' : NodeCtx ι}
    {msg : LrtqUpgradeMsg ι} {rnd : ConfigRandomness} {r : Except (LrtqUpgradeError ι) Unit}
    (h : n.coordinateUpgradeFromLrtq P ctx msg rnd = some (r, n', ctx')) :
    (n' = n ∧ ctx' = ctx) ∨
    ∃ v, ValidatedLrtqUpgradeMsg.new ctx.platformId ctx.persistentState msg = .ok v ∧
      ((n' = { n with keyShareComputer := none } ∧ ctx' = ctx) ∨
        ∃ cs, CoordinatorState.newUpgradeFromLrtq P ctx v rnd = some (.ok cs) ∧
          n' = { n with coordinatorState := some cs, keyShareComputer := none } ∧
          cs.sendMsgs ctx = some ctx') := by
  unfold coordinateUpgradeFromLrtq at h
  split at h
  · simp only [Option.some.injEq, Prod.mk.injEq] at h
    exact .inl ⟨h.2.1.symm, h.2.2.symm⟩
  rename_i v hv
  simp only [Option.bind_eq_bind, Option.bind_eq_some_iff] at h
  obtain ⟨res, hres, h⟩ := h
  refine .inr ⟨v, hv, ?_⟩
  split at h
  · simp only [Option.pure_def, Option.some.injEq, Prod.mk.injEq] at h
    exact .inl ⟨h.2.1.symm, h.2.2.symm⟩
  · rename_i cs
    simp only [Option.bind_eq_some_iff, Option.pure_def, Option.some.injEq, Prod.mk.injEq] at h
    obtain ⟨ctx₁, hsend, -, rfl, rfl⟩ := h
    exact .inr ⟨cs, hres, rfl, hsend⟩

/-! ## 8. Calls from the sled agent -/

/-- **`Node::on_connect`**: the connection is recorded, and each role resends to the new peer
    what it is waiting for. -/
theorem onConnect_spec {n n' : Node ι} {ctx ctx' : NodeCtx ι} {peer : ι}
    (h : n.onConnect ctx peer = some (n', ctx')) :
    n' = n ∧ ctx'.persistentState = ctx.persistentState ∧
      Queues ctx ctx' (Says ctx.platformId n ctx.persistentState) := by
  unfold onConnect at h
  simp only [Option.bind_eq_bind, Option.bind_eq_some_iff, Option.pure_def, Option.some.injEq,
    Prod.mk.injEq] at h
  obtain ⟨ctx₁, h₁, ctx₂, h₂, ctx₃, h₃, rfl, rfl⟩ := h
  obtain ⟨s₁, q₁⟩ := sendCoordinatorMsgsTo_spec h₁
  have hk : SendsOnly ctx₁ ctx₂ ∧ Queues ctx₁ ctx₂ (AsksForShare ctx₁.platformId) := by
    unfold onConnect.keyShareComputerOnConnect at h₂
    split at h₂
    · exact KeyShareComputer.onConnect_spec h₂
    · cases h₂
      exact ⟨SendsOnly.refl _, Queues.refl _ _⟩
  obtain ⟨s₂, q₂⟩ := hk
  obtain ⟨s₃, q₃⟩ := RackSecretLoader.onConnect_spec h₃
  have hpid₁ : ctx₁.platformId = ctx.platformId := s₁.platformId
  have hpid₂ : ctx₂.platformId = ctx.platformId := s₂.platformId.trans hpid₁
  rw [hpid₁] at q₂
  rw [hpid₂] at q₃
  refine ⟨rfl, s₃.persistentState.trans (s₂.persistentState.trans s₁.persistentState), ?_⟩
  exact (addConnection_queues ctx peer _).trans ((q₁ ctx.persistentState).trans
    ((q₂.mono fun _ h => says_of_asksForShare h).trans (q₃.mono fun _ h => says_of_asksForShare h)))

/-- **`Node::load_rack_secret`**: only the loader changes, and only requests for shares go
    out. -/
theorem loadRackSecret_spec {n n' : Node ι} {ctx ctx' : NodeCtx ι} {epoch : Nat}
    {r : Except LoadRackSecretError (Option ReconstructedRackSecret)}
    (h : n.loadRackSecret ctx epoch = some (r, n', ctx')) :
    n'.coordinatorState = n.coordinatorState ∧ n'.keyShareComputer = n.keyShareComputer ∧
      ctx'.persistentState = ctx.persistentState ∧
      Queues ctx ctx' (AsksForShare ctx.platformId) := by
  unfold loadRackSecret at h
  simp only [Option.bind_eq_bind, Option.bind_eq_some_iff, Option.pure_def, Option.some.injEq,
    Prod.mk.injEq] at h
  obtain ⟨⟨r₁, l, ctx₁⟩, hl, -, rfl, rfl⟩ := h
  obtain ⟨hps, hq⟩ := RackSecretLoader.load_spec hl
  exact ⟨rfl, rfl, hps, hq⟩

end Node

end Omicron.TrustQuorum
