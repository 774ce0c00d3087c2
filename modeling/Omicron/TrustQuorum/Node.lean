import Omicron.TrustQuorum.RackSecretLoader

/-!
# Trust quorum: a node

`node.rs`: the `Node` and every entry point of its API, each a function of the node and its
context, returning `none` where the source panics.

* from Nexus: `coordinateReconfiguration`, `coordinateUpgradeFromLrtq`, `commitConfiguration`,
  `prepareAndCommit`;
* from the sled agent: `loadRackSecret`, `clearSecrets`, `onConnect`, `onDisconnect`;
* from peers: `handle`, dispatching to `handlePrepare`, `handlePrepareAck`, `handleGetShare`,
  `handleShare`, `handleCommitAdvance`, `handleExpunged`, `handleGetLrtqShare`,
  `handleLrtqShare`.

`PrepareAndCommit` from Nexus and `CommitAdvance` from a peer share `handleCommitAdvance`,
as in the source. A restart is `Node.new` over the same persistent state.
-/

set_option linter.unusedSectionVars false

namespace Omicron.TrustQuorum

open Omicron.Gfss

/-- `Node`: the in-memory roles of a node. -/
structure Node (ι : Type) where
  coordinatorState : Option (CoordinatorState ι)
  keyShareComputer : Option (KeyShareComputer ι)
  rackSecretLoader : RackSecretLoader ι

/-- `CommitError`. -/
inductive CommitError (ι : Type) where
  | invalidRackId (err : MismatchedRackIdError)
  | notPrepared (epoch : Nat)
  | expunged (epoch : Nat) (sender : ι)

/-- `PrepareAndCommitError`. -/
inductive PrepareAndCommitError (ι : Type) where
  | invalidRackId (err : MismatchedRackIdError)
  | expunged (epoch : Nat) (sender : ι)

namespace Node

variable {ι : Type} [LinearOrder ι] (P : Primitives)

/-- `Node::new`: no role in memory. -/
def new : Node ι := ⟨none, none, RackSecretLoader.new⟩

/-- `Node::load_rack_secret`. -/
def loadRackSecret (n : Node ι) (ctx : NodeCtx ι) (epoch : Nat) :
    Option (Except LoadRackSecretError (Option ReconstructedRackSecret) × Node ι × NodeCtx ι) := do
  let (r, l, ctx) ← n.rackSecretLoader.load ctx epoch
  pure (r, { n with rackSecretLoader := l }, ctx)

/-- `Node::clear_secrets`. -/
def clearSecrets (n : Node ι) : Node ι :=
  { n with rackSecretLoader := n.rackSecretLoader.clearSecrets }

/-- `Node::send_coordinator_msgs`: nothing when not coordinating. -/
def sendCoordinatorMsgs (n : Node ι) (ctx : NodeCtx ι) : Option (NodeCtx ι) :=
  match n.coordinatorState with
  | some c => c.sendMsgs ctx
  | none => pure ctx

/-- `Node::send_coordinator_msgs_to`. -/
def sendCoordinatorMsgsTo (n : Node ι) (ctx : NodeCtx ι) (peer : ι) : Option (NodeCtx ι) :=
  match n.coordinatorState with
  | some c => c.sendMsgsTo ctx peer
  | none => pure ctx

/-- `if let Some(cs) = &self.coordinator_state { .. self.coordinator_state = None }`: the
    cancellation `commit_configuration`, `handle_commit_advance` and `handle_prepare` each make,
    every one with its own test of the coordinator. -/
def cancelCoordinationIf (n : Node ι) (stale : CoordinatorState ι → Bool) : Node ι :=
  match n.coordinatorState with
  | some cs => if stale cs then { n with coordinatorState := none } else n
  | none => n

/-- `Node::set_coordinator_state`: a first configuration on an uninitialized node is stored at
    once; otherwise the coordinator starts from the latest committed configuration and our share
    of it. `none` where an `expect` panics. -/
def setCoordinatorState (n : Node ι) (ctx : NodeCtx ι) (msg : ValidatedReconfigureMsg ι)
    (rnd : ConfigRandomness) :
    Option (Except (ReconfigurationError ι) Unit × Node ι × NodeCtx ι) :=
  if ctx.persistentState.isUninitialized then do
    let r ← CoordinatorState.newUninitialized P msg rnd
    match r with
    | .error e => pure (.error e, n, ctx)
    | .ok (cs, myConfig, myShare) =>
      if myConfig.epoch ∈ ctx.persistentState.configs then none
      else pure (.ok (), { n with coordinatorState := some cs },
        ctx.updatePersistentState (·.saveConfigAndShare myConfig myShare))
  else do
    let latest ← ctx.persistentState.latestCommittedConfigAndShare
    let (config, ourShare) ← latest
    match CoordinatorState.newReconfiguration P msg config ourShare rnd with
    | .error e => pure (.error e, n, ctx)
    | .ok cs => pure (.ok (), { n with coordinatorState := some cs }, ctx)

/-- `Node::coordinate_reconfiguration`. -/
def coordinateReconfiguration (n : Node ι) (ctx : NodeCtx ι) (msg : ReconfigureMsg ι)
    (rnd : ConfigRandomness) :
    Option (Except (ReconfigurationError ι) Unit × Node ι × NodeCtx ι) :=
  let lastReconfigMsg : Except (ReconfigurationError ι) (Option (ValidatedReconfigureMsg ι)) :=
    match n.coordinatorState with
    | some cs => match cs.msg with
      | .upgrade _ => .error .upgradeFromLrtqInProgress
      | .reconfig m => .ok (some m)
    | none => .ok none
  match lastReconfigMsg with
  | .error e => some (.error e, n, ctx)
  | .ok lastReconfigMsg =>
    match ValidatedReconfigureMsg.new ctx.platformId msg ctx.persistentState.summary
        lastReconfigMsg with
    | .error e => some (.error e, n, ctx)
    | .ok none => some (.ok (), n, ctx)
    | .ok (some validated) => do
      -- a key share computation in progress is for a stale commit: cancel it
      let n := { n with keyShareComputer := none }
      let (r, n, ctx) ← setCoordinatorState P n ctx validated rnd
      match r with
      | .error e => pure (.error e, n, ctx)
      | .ok () =>
        let ctx ← n.sendCoordinatorMsgs ctx
        pure (.ok (), n, ctx)

/-- `Node::coordinate_upgrade_from_lrtq`. -/
def coordinateUpgradeFromLrtq (n : Node ι) (ctx : NodeCtx ι) (msg : LrtqUpgradeMsg ι)
    (rnd : ConfigRandomness) :
    Option (Except (LrtqUpgradeError ι) Unit × Node ι × NodeCtx ι) :=
  match ValidatedLrtqUpgradeMsg.new ctx.platformId ctx.persistentState msg with
  | .error e => some (.error e, n, ctx)
  | .ok validated => do
    let n := { n with keyShareComputer := none }
    let r ← CoordinatorState.newUpgradeFromLrtq P ctx validated rnd
    match r with
    | .error e => pure (.error (.configuration e), n, ctx)
    | .ok cs =>
      let n := { n with coordinatorState := some cs }
      let ctx ← n.sendCoordinatorMsgs ctx
      pure (.ok (), n, ctx)

/-- `Node::handle_commit_advance`: a configuration committed elsewhere (from a peer's
    `CommitAdvance` or Nexus's `PrepareAndCommit`). A prepared node commits; otherwise the
    configuration is saved (an alarm, and nothing more, if it differs from a saved one) and the
    node starts computing its key share. -/
def handleCommitAdvance (n : Node ι) (ctx : NodeCtx ι) (src : CommitSource ι)
    (config : Configuration ι) : Option (Node ι × NodeCtx ι) :=
  let ps := ctx.persistentState
  if ctx.platformId ∉ config.members then some (n, ctx)
  else if ps.latestCommittedEpoch.any (config.epoch ≤ ·) then some (n, ctx)
  else if ps.hasPrepared config.epoch then
    advanceRoles n (ctx.updatePersistentState (·.commit config.epoch)) config true
  else match ps.configuration config.epoch with
    | some existing =>
      if existing ≠ config then
        some (n, ctx.raiseAlarm (.mismatchedConfigurations existing config src))
      else advanceRoles n ctx config false
    | none => advanceRoles n (ctx.updatePersistentState (·.saveConfig config)) config false
where
  /-- The second half of `handle_commit_advance`, once the commit or the configuration is
      saved: coordination of this epoch or an older one stops, a computation of a later share
      goes on, and unless `justCommitted` the node computes its share of `config`. -/
  advanceRoles (n : Node ι) (ctx : NodeCtx ι) (config : Configuration ι) (justCommitted : Bool) :
      Option (Node ι × NodeCtx ι) :=
    -- coordination of this epoch or an older one is cancelled
    let n := n.cancelCoordinationIf (·.msg.epoch ≤ config.epoch)
    match n.keyShareComputer with
    | some ksc =>
      if ksc.config.epoch > config.epoch then some (n, ctx)
      else if ksc.config.epoch = config.epoch then
        some (if justCommitted then { n with keyShareComputer := none } else n, ctx)
      else startComputing { n with keyShareComputer := none } ctx config justCommitted
    | none => startComputing n ctx config justCommitted
  /-- The fall-through at the end of `handle_commit_advance`: unless just committed, start
      computing our share of `config`. -/
  startComputing (n : Node ι) (ctx : NodeCtx ι) (config : Configuration ι) (justCommitted : Bool) :
      Option (Node ι × NodeCtx ι) :=
    if !justCommitted then do
      let (ksc, ctx) ← KeyShareComputer.new ctx config
      pure ({ n with keyShareComputer := some ksc }, ctx)
    else some (n, ctx)

/-- `Node::prepare_and_commit`. -/
def prepareAndCommit (n : Node ι) (ctx : NodeCtx ι) (config : Configuration ι) :
    Option (Except (PrepareAndCommitError ι) Unit × Node ι × NodeCtx ι) :=
  let ps := ctx.persistentState
  match ps.expunged with
  | some m => some (.error (.expunged m.epoch m.sender), n, ctx)
  | none =>
    match ps.rackId with
    | some psRackId =>
      if config.rackId ≠ psRackId then
        some (.error (.invalidRackId ⟨psRackId, config.rackId⟩), n, ctx)
      else (handleCommitAdvance n ctx .nexus config).map fun (n, ctx) => (.ok (), n, ctx)
    | none => (handleCommitAdvance n ctx .nexus config).map fun (n, ctx) => (.ok (), n, ctx)

/-- `Node::commit_configuration`: stale and repeated commits succeed without effect; an
    unprepared epoch is refused. -/
def commitConfiguration (n : Node ι) (ctx : NodeCtx ι) (rackId : RackUuid) (epoch : Nat) :
    Option (Except (CommitError ι) Unit × Node ι × NodeCtx ι) :=
  let ps := ctx.persistentState
  match ps.expunged with
  | some m => some (.error (.expunged m.epoch m.sender), n, ctx)
  | none =>
    if let some psRackId := ps.rackId then
      if rackId ≠ psRackId then some (.error (.invalidRackId ⟨psRackId, rackId⟩), n, ctx)
      else commitChecked
    else commitChecked
where
  /-- The rest of `commit_configuration`, after the expungement and rack id checks. -/
  commitChecked : Option (Except (CommitError ι) Unit × Node ι × NodeCtx ι) := do
    let ps := ctx.persistentState
    let latest ← ps.latestCommittedConfiguration
    if latest.any (epoch ≤ ·.epoch) then return (.ok (), n, ctx)
    if ¬ ps.hasPrepared epoch then return (.error (.notPrepared epoch), n, ctx)
    let ctx := ctx.updatePersistentState (·.commit epoch)
    pure (.ok (), n.cancelCoordinationIf (·.msg.epoch = epoch), ctx)

/-- `Node::on_connect`. -/
def onConnect (n : Node ι) (ctx : NodeCtx ι) (peer : ι) : Option (Node ι × NodeCtx ι) := do
  let ctx := ctx.addConnection peer
  let ctx ← n.sendCoordinatorMsgsTo ctx peer
  let ctx ← keyShareComputerOnConnect ctx
  let ctx ← n.rackSecretLoader.onConnect ctx peer
  pure (n, ctx)
where
  /-- `if let Some(ksc) = &mut self.key_share_computer { ksc.on_connect(ctx, peer) }`. -/
  keyShareComputerOnConnect (ctx : NodeCtx ι) : Option (NodeCtx ι) :=
    match n.keyShareComputer with
    | some ksc => ksc.onConnect ctx peer
    | none => pure ctx

/-- `Node::on_disconnect`. -/
def onDisconnect (n : Node ι) (ctx : NodeCtx ι) (peer : ι) : Node ι × NodeCtx ι :=
  (n, ctx.removeConnection peer)

/-- `Node::handle_prepare_ack`: an acknowledgement for the epoch being coordinated. -/
def handlePrepareAck (n : Node ι) (sender : ι) (epoch : Nat) : Node ι :=
  match n.coordinatorState with
  | some cs => if cs.msg.epoch = epoch then { n with coordinatorState := some (cs.ackPrepare sender) }
    else n
  | none => n

/-- `Node::handle_expunged`: an expungement at or after the latest known configuration is
    recorded, and both in-memory roles stop. -/
def handleExpunged (n : Node ι) (ctx : NodeCtx ι) (sender : ι) (epoch : Nat) :
    Node ι × NodeCtx ι :=
  match ctx.persistentState.latestConfig with
  | some config =>
    if epoch < config.epoch then (n, ctx)
    else ({ n with coordinatorState := none, keyShareComputer := none },
      ctx.updatePersistentState (·.expunge ⟨epoch, sender⟩))
  | none => (n, ctx)

/-- `Node::handle_get_share`: a stale requester gets a `CommitAdvance` (or `Expunged` when it is
    no longer a member); otherwise our share of the epoch, if we have it. -/
def handleGetShare (n : Node ι) (ctx : NodeCtx ι) (sender : ι) (epoch : Nat) :
    Option (Node ι × NodeCtx ι) := do
  let ps := ctx.persistentState
  let latest ← ps.latestCommittedConfiguration
  if let some c := latest then
    if c.epoch > epoch then
      if sender ∉ c.members then
        return (n, ← ctx.send sender (.expunged c.epoch))
      else return (n, ← ctx.send sender (.commitAdvance c))
  if let some config := ps.configuration epoch then
    if sender ∉ config.members then return (n, ← ctx.send sender (.expunged epoch))
  match ps.shares.lookup epoch with
  | some share => return (n, ← ctx.send sender (.share epoch share))
  | none => return (n, ctx)

/-- `Node::handle_share`: to the coordinator if coordinating, else to the key share computer,
    and in every case to the rack secret loader. -/
def handleShare (n : Node ι) (ctx : NodeCtx ι) (sender : ι) (epoch : Nat) (share : Share)
    (salt : Salt) : Option (Node ι × NodeCtx ι) := do
  let (n, ctx) ← toRole n ctx
  let (l, ctx) ← n.rackSecretLoader.handleShare P ctx sender epoch share
  pure ({ n with rackSecretLoader := l }, ctx)
where
  /-- The `if let .. else if let ..` of `handle_share`: the coordinator, or the key share
      computer, dropped once it is done. -/
  toRole (n : Node ι) (ctx : NodeCtx ι) : Option (Node ι × NodeCtx ι) :=
    match n.coordinatorState with
    | some cs => do
      let (cs, ctx) ← cs.handleShare P ctx sender epoch share salt
      pure ({ n with coordinatorState := some cs }, ctx)
    | none => match n.keyShareComputer with
      | some ksc => do
        let (ksc, ctx, done) ← ksc.handleShare P ctx sender epoch share
        pure (if done then { n with keyShareComputer := none }
          else { n with keyShareComputer := some ksc }, ctx)
      | none => pure (n, ctx)

/-- `Node::handle_prepare`: unless a later epoch is committed or we are not a member, save the
    share (always) and the configuration (if none is saved for the epoch), stop coordinating an
    older epoch, and acknowledge. -/
def handlePrepare (n : Node ι) (ctx : NodeCtx ι) (sender : ι) (config : Configuration ι)
    (share : Share) : Option (Node ι × NodeCtx ι) :=
  let latestCommittedEpoch := ctx.persistentState.latestCommittedEpoch.getD 0
  if latestCommittedEpoch > config.epoch then some (n, ctx)
  else if ctx.platformId ∉ config.members then some (n, ctx)
  else do
    let msgEpoch := config.epoch
    let ctx := ctx.updatePersistentState (·.savePrepare config share)
    let n := n.cancelCoordinationIf (msgEpoch > ·.msg.epoch)
    let ctx ← ctx.send sender (.prepareAck msgEpoch)
    pure (n, ctx)

/-- `Node::handle_get_lrtq_share`: after a commit, `CommitAdvance` (or `Expunged`); before, our
    LRTQ share to anyone who asks. -/
def handleGetLrtqShare (n : Node ι) (ctx : NodeCtx ι) (sender : ι) :
    Option (Node ι × NodeCtx ι) := do
  let ps := ctx.persistentState
  let latest ← ps.latestCommittedConfiguration
  match latest with
  | some c =>
    if sender ∉ c.members then return (n, ← ctx.send sender (.expunged c.epoch))
    else return (n, ← ctx.send sender (.commitAdvance c))
  | none =>
    match ps.lrtq with
    | some lrtqShareData => do
      let share ← CoordinatorState.lrtqShareNew lrtqShareData.share
      return (n, ← ctx.send sender (.lrtqShare share))
    | none => return (n, ctx)

/-- `Node::handle_lrtq_share`. -/
def handleLrtqShare (n : Node ι) (ctx : NodeCtx ι) (sender : ι) (share : LrtqShare)
    (salt : Salt) : Option (Node ι × NodeCtx ι) :=
  match n.coordinatorState with
  | some cs => do
    let (cs, ctx) ← cs.handleLrtqShare P ctx sender share salt
    pure ({ n with coordinatorState := some cs }, ctx)
  | none => some (n, ctx)

/-- `Node::handle`: messages are dropped once expunged, and when their rack id is not ours. The
    salt is the random draw of an encryption the message may trigger. -/
def handle (n : Node ι) (ctx : NodeCtx ι) (sender : ι) (msg : PeerMsg ι) (salt : Salt) :
    Option (Node ι × NodeCtx ι) :=
  if ctx.persistentState.isExpunged then some (n, ctx)
  else if ctx.persistentState.rackId.any (· ≠ msg.rackId) then some (n, ctx)
  else match msg.kind with
    | .prepareAck epoch => some (n.handlePrepareAck sender epoch, ctx)
    | .prepare config share => n.handlePrepare ctx sender config share
    | .getShare epoch => n.handleGetShare ctx sender epoch
    | .share epoch share => n.handleShare P ctx sender epoch share salt
    | .commitAdvance config => n.handleCommitAdvance ctx (.peer sender) config
    | .expunged epoch => some (n.handleExpunged ctx sender epoch)
    | .getLrtqShare => n.handleGetLrtqShare ctx sender
    | .lrtqShare share => n.handleLrtqShare P ctx sender share salt

/-- An entry point of the node's API with its arguments, and the random draws it may make. -/
inductive Call (ι : Type) where
  | handle (sender : ι) (msg : PeerMsg ι) (salt : Salt)
  | commitConfiguration (rackId : RackUuid) (epoch : Nat)
  | prepareAndCommit (config : Configuration ι)
  | coordinateReconfiguration (msg : ReconfigureMsg ι) (rnd : ConfigRandomness)
  | coordinateUpgradeFromLrtq (msg : LrtqUpgradeMsg ι) (rnd : ConfigRandomness)
  | onConnect (peer : ι)
  | onDisconnect (peer : ι)
  | loadRackSecret (epoch : Nat)
  | clearSecrets

/-- The node and its context after a call, whatever the call returns; `none` where it panics. -/
def call : Call ι → Node ι × NodeCtx ι → Option (Node ι × NodeCtx ι)
  | .handle sender msg salt, (n, ctx) => n.handle P ctx sender msg salt
  | .commitConfiguration rackId epoch, (n, ctx) =>
    (n.commitConfiguration ctx rackId epoch).map (·.2)
  | .prepareAndCommit config, (n, ctx) => (n.prepareAndCommit ctx config).map (·.2)
  | .coordinateReconfiguration msg rnd, (n, ctx) =>
    (n.coordinateReconfiguration P ctx msg rnd).map (·.2)
  | .coordinateUpgradeFromLrtq msg rnd, (n, ctx) =>
    (n.coordinateUpgradeFromLrtq P ctx msg rnd).map (·.2)
  | .onConnect peer, (n, ctx) => n.onConnect ctx peer
  | .onDisconnect peer, (n, ctx) => some (n.onDisconnect ctx peer)
  | .loadRackSecret epoch, (n, ctx) => (n.loadRackSecret ctx epoch).map (·.2)
  | .clearSecrets, (n, ctx) => some (n.clearSecrets, ctx)

end Node

end Omicron.TrustQuorum
