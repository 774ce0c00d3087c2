import Omicron.TrustQuorum.Coordinator

/-!
# Trust quorum: recomputing a node's own key share

`compute_key_share.rs`. A node that learns of a committed configuration it never prepared asks
the members for their shares; once a threshold of valid shares is in, it interpolates its own
share at `x = (its position among the members in key order) + 1` and commits.

* `KeyShareComputer`, `new`, `onConnect`;
* `handleShare` -- `true` once the share is computed and saved with the commit.
-/

set_option linter.unusedSectionVars false

namespace Omicron.TrustQuorum

open Omicron.Gfss

/-- `KeyShareComputer`: the configuration and the shares collected so far. -/
structure KeyShareComputer (ι : Type) where
  config : Configuration ι
  collectedShares : Finmap fun _ : ι => Share

namespace KeyShareComputer

variable {ι : Type} [LinearOrder ι] (P : Primitives)

/-- `KeyShareComputer::new`: ask every connected member for its share. -/
def new (ctx : NodeCtx ι) (config : Configuration ι) :
    Option (KeyShareComputer ι × NodeCtx ι) := do
  let ctx ← ctx.sendAll (config.members.keys.ascending.filter (· ∈ ctx.connected))
    (.getShare config.epoch)
  pure (⟨config, ∅⟩, ctx)

/-- `KeyShareComputer::on_connect`. -/
def onConnect (ksc : KeyShareComputer ι) (ctx : NodeCtx ι) (peer : ι) : Option (NodeCtx ι) :=
  if peer ∈ ksc.config.members ∧ peer ∉ ksc.collectedShares then
    ctx.send peer (.getShare ksc.config.epoch)
  else pure ctx

/-- `keys().position(|id| id == platform_id)`: our index among the members in key order. -/
def memberIndex (config : Configuration ι) (id : ι) : Option Nat :=
  config.members.keys.ascending.idxOf? id

/-- `KeyShareComputer::handle_share`: `true` once our share is computed and saved, with the
    epoch committed. `none` where `u8::try_from(index + 1).expect(..)` panics. -/
def handleShare (ksc : KeyShareComputer ι) (ctx : NodeCtx ι) (sender : ι) (epoch : Nat)
    (share : Share) : Option (KeyShareComputer ι × NodeCtx ι × Bool) :=
  if !validateShare P ksc.config sender epoch share then some (ksc, ctx, false)
  else
    let collected := ksc.collectedShares.insert sender share
    let ksc' := { ksc with collectedShares := collected }
    if sender ∈ ksc.collectedShares then some (ksc', ctx, false)
    else if collected.keys.card < ksc.config.threshold then some (ksc', ctx, false)
    else match memberIndex ksc.config ctx.platformId with
      | none => some (ksc', ctx, false)
      | some index =>
        if index + 1 > 255 then none
        else match computeShare collected.sortedValues ⟨(index + 1).toUInt8⟩ with
          | .ok ourShare =>
            some (ksc', ctx.updatePersistentState (·.saveShareAndCommit epoch ourShare), true)
          | .error err =>
            some (ksc', ctx.raiseAlarm (.shareComputationFailed epoch err), false)

end KeyShareComputer

end Omicron.TrustQuorum
