import Omicron.TrustQuorum.KeyShareComputer

/-!
# Trust quorum: loading rack secrets

`rack_secret_loader.rs`. Secrets are loaded by collecting a threshold of shares of the latest
committed configuration; the secret they rebuild decrypts the secrets of every earlier epoch the
configuration carries.

* `ShareCollector`, `ShareCollector.new`, `ShareCollector.handleShare`, `ShareCollector.onConnect`;
* `RackSecretLoader`, `load`, `handleShare`, `clearSecrets`, `onConnect`.
-/

set_option linter.unusedSectionVars false

namespace Omicron.TrustQuorum

open Omicron.Gfss

/-- `LoadRackSecretError`. -/
inductive LoadRackSecretError where
  | noCommittedConfigurations
  | notCommitted (epoch : Nat)
  | alarm
  | notAvailable (epoch : Nat)
  deriving DecidableEq

/-- `ShareCollector`: the latest committed configuration and the shares collected for it. -/
structure ShareCollector (ι : Type) where
  config : Configuration ι
  shares : Finmap fun _ : ι => Share

/-- `RackSecretLoader`: the loaded secrets, and the collection in progress if any. -/
structure RackSecretLoader (ι : Type) where
  loaded : Finmap fun _ : Nat => ReconstructedRackSecret
  collector : Option (ShareCollector ι)

namespace ShareCollector

variable {ι : Type} [LinearOrder ι] (P : Primitives)

/-- `ShareCollector::new`: start from our own share of the latest committed configuration and ask
    the connected members for theirs. `none` where `latest_committed_configuration` or
    `expect("share exists because config is committed")` panics. -/
def new (ctx : NodeCtx ι) :
    Option (Except LoadRackSecretError (ShareCollector ι × NodeCtx ι)) := do
  let latest ← ctx.persistentState.latestCommittedConfiguration
  match latest with
  | none => pure (.error .noCommittedConfigurations)
  | some config => do
    let myShare ← ctx.persistentState.shares.lookup config.epoch
    let ctx ← ctx.sendAll (config.members.keys.ascending.filter (· ∈ ctx.connected))
      (.getShare config.epoch)
    pure (.ok (⟨config, Finmap.singleton ctx.platformId myShare⟩, ctx))

/-- `ShareCollector::on_connect`. -/
def onConnect (sc : ShareCollector ι) (ctx : NodeCtx ι) (peer : ι) : Option (NodeCtx ι) :=
  if peer ∈ sc.config.members then ctx.send peer (.getShare sc.config.epoch) else pure ctx

/-- `ShareCollector::handle_share`: once a threshold of valid shares is in, the secret of the
    configuration's epoch together with every secret its encrypted rack secrets hold. -/
def handleShare (sc : ShareCollector ι) (ctx : NodeCtx ι) (sender : ι) (epoch : Nat)
    (share : Share) :
    Option (ShareCollector ι × NodeCtx ι × Option (Finmap fun _ : Nat => ReconstructedRackSecret)) :=
  if !validateShare P sc.config sender epoch share then some (sc, ctx, none)
  else
    let shares := sc.shares.insert sender share
    let sc' := { sc with shares }
    if sender ∈ sc.shares then some (sc', ctx, none)
    else if shares.keys.card < sc.config.threshold then some (sc', ctx, none)
    else match reconstruct shares.sortedValues with
      | .ok secret =>
        match sc.config.encryptedRackSecrets with
        | some encrypted => do
          let r ← decryptRackSecrets P encrypted sc.config.rackId sc.config.epoch secret
          match r with
          | .ok plaintext => pure (sc', ctx, some (plaintext.insert sc.config.epoch secret))
          | .error err => pure (sc', ctx.raiseAlarm (.rackSecretDecryptionFailed epoch err), none)
        | none => some (sc', ctx, some (Finmap.singleton sc.config.epoch secret))
      | .error err => some (sc', ctx.raiseAlarm (.rackSecretReconstructionFailed epoch err), none)

end ShareCollector

namespace RackSecretLoader

variable {ι : Type} [LinearOrder ι] (P : Primitives)

/-- `RackSecretLoader::new`. -/
def new : RackSecretLoader ι := ⟨∅, none⟩

/-- `RackSecretLoader::load`: a loaded secret, or the start (or restart) of a collection for the
    latest committed epoch. `none` where the source panics (`unreachable!`, or a panic of
    `ShareCollector::new`). -/
def load (l : RackSecretLoader ι) (ctx : NodeCtx ι) (epoch : Nat) :
    Option (Except LoadRackSecretError (Option ReconstructedRackSecret) × RackSecretLoader ι ×
      NodeCtx ι) :=
  match l.loaded.lookup epoch with
  | some secret => some (.ok (some secret), l, ctx)
  | none =>
    match ctx.persistentState.latestCommittedEpoch with
    | none => some (.error .noCommittedConfigurations, l, ctx)
    | some latestCommittedEpoch =>
      if epoch > latestCommittedEpoch then some (.error (.notCommitted epoch), l, ctx)
      else if latestCommittedEpoch ∈ l.loaded then
        if epoch < latestCommittedEpoch then some (.error (.notAvailable epoch), l, ctx)
        else none
      else
        let startCollecting : Option (Except LoadRackSecretError (Option ReconstructedRackSecret) ×
            RackSecretLoader ι × NodeCtx ι) := do
          let r ← ShareCollector.new ctx
          match r with
          | .error e => pure (.error e, l, ctx)
          | .ok (collector, ctx) => pure (.ok none, { l with collector := some collector }, ctx)
        match l.collector with
        | none => startCollecting
        | some collector =>
          if collector.config.epoch = latestCommittedEpoch then some (.ok none, l, ctx)
          else if collector.config.epoch < latestCommittedEpoch then startCollecting
          else some (.error .alarm, l, ctx.raiseAlarm
            (.committedConfigurationLost latestCommittedEpoch collector.config.epoch))

/-- `RackSecretLoader::handle_share`: a share for the collection in progress; a completed
    collection replaces the loaded secrets. -/
def handleShare (l : RackSecretLoader ι) (ctx : NodeCtx ι) (sender : ι) (epoch : Nat)
    (share : Share) : Option (RackSecretLoader ι × NodeCtx ι) :=
  if epoch ∈ l.loaded then some (l, ctx)
  else match l.collector with
    | none => some (l, ctx)
    | some collector => do
      let (collector, ctx, loaded) ← collector.handleShare P ctx sender epoch share
      match loaded with
      | some loaded => pure (⟨loaded, none⟩, ctx)
      | none => pure ({ l with collector := some collector }, ctx)

/-- `RackSecretLoader::clear_secrets`. -/
def clearSecrets (_ : RackSecretLoader ι) : RackSecretLoader ι := ⟨∅, none⟩

/-- `RackSecretLoader::on_connect`. -/
def onConnect (l : RackSecretLoader ι) (ctx : NodeCtx ι) (peer : ι) : Option (NodeCtx ι) :=
  match l.collector with
  | some collector => collector.onConnect ctx peer
  | none => pure ctx

end RackSecretLoader

end Omicron.TrustQuorum
