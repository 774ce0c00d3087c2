import Omicron.TrustQuorum.Context

/-!
# Trust quorum: the reconfiguration coordinator

`coordinator_state.rs`. A coordinator first collects shares of the last committed configuration
(or LRTQ shares, for an upgrade), rebuilds the old rack secret, encrypts every earlier secret under
the new one, stores the new configuration and its own share, and then sends `Prepare`s and counts
acknowledgements.

* `CoordinatingMsg`, `CoordinatorOperation`, `CoordinatorState`;
* `newUninitialized`, `newReconfiguration`, `newUpgradeFromLrtq` -- the three constructors;
* `sendMsgs`, `sendMsgsTo` -- the messages of the current operation, to all or to one peer;
* `ackPrepare` -- acknowledgements from members only, while preparing;
* `handleShare`, `handleLrtqShare`, `transitionToPreparing` -- collecting and the jump to preparing.

Every function returns `none` where the source panics. Random draws (the new rack secret, the
split's random stream, the salt of the encryption) are arguments.
-/

set_option linter.unusedSectionVars false

namespace Omicron.TrustQuorum

open Omicron.Gfss

/-- `CoordinatingMsg`: the request being coordinated. -/
inductive CoordinatingMsg (ι : Type) where
  | upgrade (msg : ValidatedLrtqUpgradeMsg ι)
  | reconfig (msg : ValidatedReconfigureMsg ι)

/-- `CoordinatingMsg::epoch`. -/
def CoordinatingMsg.epoch {ι : Type} : CoordinatingMsg ι → Nat
  | .upgrade msg => msg.epoch
  | .reconfig msg => msg.epoch

/-- `CoordinatorOperation`: what the coordinator is doing. -/
inductive CoordinatorOperation (ι : Type) where
  | collectShares (oldEpoch : Nat) (oldCollectedShares : Finmap fun _ : ι => Share)
      (newShares : Finmap fun _ : ι => Share)
  | collectLrtqShares (collectedLrtqShares : Finmap fun _ : ι => LrtqShare)
      (newShares : Finmap fun _ : ι => Share)
  | prepare (prepares : Finmap fun _ : ι => Configuration ι × Share) (prepareAcks : Finset ι)

/-- `CoordinatorOperation::acked_prepares`. -/
def CoordinatorOperation.ackedPrepares {ι : Type} : CoordinatorOperation ι → Finset ι
  | .prepare _ acks => acks
  | _ => ∅

/-- `CoordinatorState`. -/
structure CoordinatorState (ι : Type) where
  msg : CoordinatingMsg ι
  configuration : Configuration ι
  op : CoordinatorOperation ι

/-- The random draws of `new_configuration`: the rack secret (`RackSecret::new`) and the stream
    the split's polynomials are drawn from. -/
structure ConfigRandomness where
  secret : RackSecret
  rng : Nat → UInt8

namespace CoordinatorState

variable {ι : Type} [LinearOrder ι] (P : Primitives)

/-- The prepares of a new configuration: every share but the coordinator's, with the
    configuration, collected in key order. -/
def preparesOf (config : Configuration ι) (shares : Finmap fun _ : ι => Share) (me : ι) :
    Finmap fun _ : ι => Configuration ι × Share :=
  Finmap.ofPairs ((shares.sortedEntries.filter fun p => p.1 ≠ me).map fun p => (p.1, (config, p.2)))

/-- `CoordinatorState::new_uninitialized`: the coordinator's state, its configuration and its
    share; `none` where `my_share.unwrap()` panics. -/
def newUninitialized (msg : ValidatedReconfigureMsg ι) (rnd : ConfigRandomness) :
    Option (Except (ReconfigurationError ι) (CoordinatorState ι × Configuration ι × Share)) :=
  match newConfiguration P msg.toParams rnd.secret rnd.rng with
  | .error e => some (.error (.configuration e))
  | .ok (config, shares) => do
    let myShare ← shares.lookup msg.coordinatorId
    pure (.ok (⟨.reconfig msg, config,
      .prepare (preparesOf config shares msg.coordinatorId) {msg.coordinatorId}⟩,
      config, myShare))

/-- `CoordinatorState::new_reconfiguration`: collect the old shares, starting with our own. -/
def newReconfiguration (msg : ValidatedReconfigureMsg ι)
    (latestCommittedConfig : Configuration ι) (ourLatestCommittedShare : Share)
    (rnd : ConfigRandomness) : Except (ReconfigurationError ι) (CoordinatorState ι) :=
  match newConfiguration P msg.toParams rnd.secret rnd.rng with
  | .error e => .error (.configuration e)
  | .ok (config, newShares) =>
    .ok ⟨.reconfig msg, config, .collectShares latestCommittedConfig.epoch
      (Finmap.singleton msg.coordinatorId ourLatestCommittedShare) newShares⟩

/-- `LrtqShare::new`, `none` where its `assert_eq!` on the 33-byte length panics. -/
def lrtqShareNew (share : List UInt8) : Option LrtqShare :=
  if share.length = lrtqShareSize then some share else none

/-- `CoordinatorState::new_upgrade_from_lrtq`: collect LRTQ shares, starting with our own. -/
def newUpgradeFromLrtq (ctx : NodeCtx ι) (msg : ValidatedLrtqUpgradeMsg ι)
    (rnd : ConfigRandomness) : Option (Except ConfigurationError (CoordinatorState ι)) :=
  match newConfiguration P msg.toParams rnd.secret rnd.rng with
  | .error e => some (.error e)
  | .ok (configuration, newShares) => do
    let lrtq ← ctx.persistentState.lrtq
    let share ← lrtqShareNew lrtq.share
    pure (.ok ⟨.upgrade msg, configuration,
      .collectLrtqShares (Finmap.singleton msg.coordinatorId share) newShares⟩)

/-- `CoordinatorState::send_msgs`. -/
def sendMsgs (cs : CoordinatorState ι) (ctx : NodeCtx ι) : Option (NodeCtx ι) :=
  match cs.op with
  | .collectShares oldEpoch oldCollectedShares _ => do
    let config ← ctx.persistentState.configuration oldEpoch
    ctx.sendAll (config.members.keys.ascending.filter fun id =>
      id ∉ oldCollectedShares ∧ id ∈ ctx.connected) (.getShare oldEpoch)
  | .collectLrtqShares collectedLrtqShares _ =>
    ctx.sendAll (cs.configuration.members.keys.ascending.filter fun id =>
      id ∉ collectedLrtqShares ∧ id ∈ ctx.connected) .getLrtqShare
  | .prepare prepares _ =>
    prepares.sortedEntries.foldlM (fun c p =>
      if p.1 ∈ c.connected then c.send p.1 (.prepare p.2.1 p.2.2) else some c) ctx

/-- `CoordinatorState::send_msgs_to`. -/
def sendMsgsTo (cs : CoordinatorState ι) (ctx : NodeCtx ι) (dest : ι) : Option (NodeCtx ι) :=
  match cs.op with
  | .collectShares oldEpoch oldCollectedShares _ =>
    if dest ∉ oldCollectedShares ∧ dest ∈ ctx.connected then do
      let config ← ctx.persistentState.configuration oldEpoch
      if dest ∈ config.members then ctx.send dest (.getShare oldEpoch) else pure ctx
    else pure ctx
  | .collectLrtqShares collectedLrtqShares _ =>
    if dest ∉ collectedLrtqShares ∧ dest ∈ ctx.connected ∧ dest ∈ cs.configuration.members then
      ctx.send dest .getLrtqShare
    else pure ctx
  | .prepare prepares _ =>
    match prepares.lookup dest with
    | some (config, share) => ctx.send dest (.prepare config share)
    | none => pure ctx

/-- `CoordinatorState::ack_prepare`: a member's acknowledgement, while preparing. -/
def ackPrepare (cs : CoordinatorState ι) (sender : ι) : CoordinatorState ι :=
  match cs.op with
  | .prepare prepares prepareAcks =>
    if sender ∉ cs.configuration.members then cs
    else { cs with op := .prepare (prepares.erase sender) (insert sender prepareAcks) }
  | _ => cs

/-- `CoordinatorState::transition_to_preparing`: rebuild the new secret, encrypt the old ones
    under it, store the configuration and our share, and send the `Prepare`s. A failure to
    rebuild or to encrypt leaves the state as it is. -/
def transitionToPreparing (cs : CoordinatorState ι) (ctx : NodeCtx ι)
    (newShares : Finmap fun _ : ι => Share) (plaintextSecrets : PlaintextRackSecrets)
    (salt : Salt) : Option (CoordinatorState ι × NodeCtx ι) :=
  let newEpoch := cs.configuration.epoch
  match reconstruct newShares.sortedValues with
  | .error _ => some (cs, ctx)
  | .ok newRackSecret => do
    let encrypted ← encrypt P plaintextSecrets cs.configuration.rackId newEpoch newRackSecret salt
    match encrypted with
    | .error () => some (cs, ctx)
    | .ok newEncryptedRackSecrets =>
      if cs.configuration.encryptedRackSecrets.isSome then none
      else do
        let configuration :=
          { cs.configuration with encryptedRackSecrets := some newEncryptedRackSecrets }
        let share ← newShares.lookup ctx.platformId
        if newEpoch ∈ ctx.persistentState.configs then none
        else
          let ctx := ctx.updatePersistentState (·.saveConfigAndShare configuration share)
          let prepares := Finmap.ofPairs
            ((newShares.erase ctx.platformId).sortedEntries.map fun p =>
              (p.1, (configuration, p.2)))
          let cs := { cs with configuration,
                              op := .prepare prepares {ctx.platformId} }
          let ctx ← cs.sendMsgs ctx
          pure (cs, ctx)

/-- The secrets the old configuration carries, decrypted with the old rack secret (none for a
    configuration that carries none): `some none` where decryption fails and `handle_share`
    returns, `none` where `decrypt_rack_secrets` panics. -/
def oldPlaintextSecrets (oldConfig : Configuration ι) (oldRackSecret : ReconstructedRackSecret) :
    Option (Option PlaintextRackSecrets) :=
  match oldConfig.encryptedRackSecrets with
  | some encryptedSecrets => (decryptRackSecrets P encryptedSecrets oldConfig.rackId
      oldConfig.epoch oldRackSecret).map fun r => r.toOption
  | none => some (some ∅)

/-- `CoordinatorState::handle_share`: a share of the last committed configuration. Enough valid
    shares rebuild the old secret; the secrets it decrypts, with it added, are what the new
    configuration encrypts. -/
def handleShare (cs : CoordinatorState ι) (ctx : NodeCtx ι) (sender : ι) (epoch : Nat)
    (share : Share) (salt : Salt) : Option (CoordinatorState ι × NodeCtx ι) :=
  match cs.op with
  | .collectShares oldEpoch oldCollectedShares newShares => do
    let oldConfig ← ctx.persistentState.configuration oldEpoch
    if !validateShare P oldConfig sender epoch share then pure (cs, ctx)
    else
      let collected := oldCollectedShares.insert sender share
      let cs := { cs with op := .collectShares oldEpoch collected newShares }
      if sender ∈ oldCollectedShares then pure (cs, ctx)
      else if collected.keys.card < oldConfig.threshold then pure (cs, ctx)
      else match reconstruct collected.sortedValues with
        | .error _ => pure (cs, ctx)
        | .ok oldRackSecret => do
          let plaintext ← oldPlaintextSecrets P oldConfig oldRackSecret
          match plaintext with
          | none => pure (cs, ctx)
          | some plaintextSecrets => do
            let plaintextSecrets ← plaintextInsert plaintextSecrets oldEpoch oldRackSecret
            -- `mem::take(new_shares)` leaves the operation with no new shares
            let cs := { cs with op := .collectShares oldEpoch collected ∅ }
            transitionToPreparing P cs ctx newShares plaintextSecrets salt
  | _ => pure (cs, ctx)

/-- `CoordinatorState::handle_lrtq_share`: an LRTQ share, checked against the LRTQ digests and
    against the shares already collected; enough of them rebuild the LRTQ secret, the secret of
    epoch 1. -/
def handleLrtqShare (cs : CoordinatorState ι) (ctx : NodeCtx ι) (sender : ι) (share : LrtqShare)
    (salt : Salt) : Option (CoordinatorState ι × NodeCtx ι) :=
  match cs.op with
  | .collectLrtqShares collectedLrtqShares newShares =>
    if sender ∈ collectedLrtqShares then pure (cs, ctx)
    else do
      let lrtqShareData ← ctx.persistentState.lrtq
      let digest := P.sha3 share
      if digest ∉ lrtqShareData.shareDigests then pure (cs, ctx)
      else if collectedLrtqShares.sortedValues.any (fun s => P.sha3 s == digest) then
        pure (cs, ctx)
      else
        let collected := collectedLrtqShares.insert sender share
        let cs := { cs with op := .collectLrtqShares collected newShares }
        if collected.keys.card < lrtqShareData.threshold then pure (cs, ctx)
        else match P.lrtqCombineShares collected.sortedValues with
          | none => pure (cs, ctx)
          | some lrtqRackSecret =>
            let cs := { cs with op := .collectLrtqShares collected ∅ }
            transitionToPreparing P cs ctx newShares (Finmap.singleton 1 lrtqRackSecret) salt
  | _ => pure (cs, ctx)

end CoordinatorState

end Omicron.TrustQuorum
