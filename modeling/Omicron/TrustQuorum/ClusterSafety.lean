import Omicron.TrustQuorum.ClusterInv

/-!
# Trust quorum: safety of a cluster under Nexus

What the test harness checks after every event (`invariant_*` of `tests/cluster.rs`), for every
reachable cluster, read off the invariant `World.Inv`:

* `configuration_agreement` -- nodes agree on the configuration of an epoch: it is the one in
  `all_coordinated_configs`, held by the coordinator Nexus chose for the epoch;
* `prepareAcks_prepared` -- a coordinator counts as acknowledged only members that prepared;
* `not_coordinating_and_computing` -- no node coordinates and computes a key share at once.

The run `trioAcked` is a cluster of three where node `0` coordinates epoch `1`, node `1` has
prepared it and node `0` has taken its acknowledgement.
-/

set_option linter.unusedSectionVars false

namespace Omicron.TrustQuorum

open Omicron.Gfss NodeCtx PersistentState

namespace World

variable {ι : Type} [LinearOrder ι] {P : Primitives}

/-! ## 1. A run of three nodes -/

/-- Delivering the first envelope in flight. -/
theorem Step.deliverFirst {w w' : World ι} (hne : w.bootstrapNetwork ≠ []) (salt : Salt)
    (h : runNode P { w with bootstrapNetwork := w.bootstrapNetwork.tail }
      (w.bootstrapNetwork.head hne).dest
      (.handle (w.bootstrapNetwork.head hne).sender (w.bootstrapNetwork.head hne).msg salt) =
        some w') :
    Step P w w' :=
  .deliverEnvelope _ salt
    (show w.bootstrapNetwork = [] ++ _ :: _ from (List.cons_head_tail hne).symm) h

/-- Nexus's first configuration: members `0`, `1` and `2` with threshold `2`, coordinated
    by `0`. -/
def trioConfig : NexusConfig Nat := ⟨.preparing, 1, none, 0, {0, 1, 2}, 2, 0, ∅, ∅⟩

def trioRandomness : ConfigRandomness := ⟨⟨List.replicate 32 7, by decide, by decide⟩, fun _ => 0⟩

/-- The coordinator's call. -/
def trioStart : Node.Call Nat :=
  .coordinateReconfiguration (trioConfig.toReconfigureMsg (NexusState.new : NexusState Nat).rackId)
    trioRandomness

/-- The call that delivers the first envelope in flight. -/
def deliverFirst (w : World Nat) (hne : w.bootstrapNetwork ≠ []) : Option (World Nat) :=
  runNode Node.inertPrimitives { w with bootstrapNetwork := w.bootstrapNetwork.tail }
    (w.bootstrapNetwork.head hne).dest
    (.handle (w.bootstrapNetwork.head hne).sender (w.bootstrapNetwork.head hne).msg [])

theorem trioLink_isSome :
    ((initial : World Nat).runNode Node.inertPrimitives 0 (.onConnect 1)).isSome := by
  rfl

/-- Node `0` connected to node `1`. -/
def trioLinked : World Nat :=
  ((initial : World Nat).runNode Node.inertPrimitives 0 (.onConnect 1)).get trioLink_isSome

theorem trioLinkBack_isSome : (trioLinked.runNode Node.inertPrimitives 1 (.onConnect 0)).isSome := by
  rfl

/-- Nodes `0` and `1` connected to each other. -/
def trioConnected : World Nat :=
  (trioLinked.runNode Node.inertPrimitives 1 (.onConnect 0)).get trioLinkBack_isSome

theorem trioStart_isSome :
    (runNode Node.inertPrimitives { trioConnected with nexus := NexusState.new.store trioConfig } 0
      trioStart).isSome := by
  rfl

/-- Node `0` coordinates epoch `1`, its `Prepare` to node `1` in flight. -/
def trioStarted : World Nat :=
  (runNode Node.inertPrimitives { trioConnected with nexus := NexusState.new.store trioConfig } 0
    trioStart).get trioStart_isSome

theorem trioStarted_sends : trioStarted.bootstrapNetwork ≠ [] :=
  List.ne_nil_of_length_pos (by decide)

theorem trioPrepare_isSome : (deliverFirst trioStarted trioStarted_sends).isSome := by
  rfl

/-- Node `1` has prepared, its acknowledgement in flight. -/
def trioPrepared : World Nat := (deliverFirst trioStarted trioStarted_sends).get trioPrepare_isSome

theorem trioPrepared_sends : trioPrepared.bootstrapNetwork ≠ [] :=
  List.ne_nil_of_length_pos (by decide)

theorem trioAck_isSome : (deliverFirst trioPrepared trioPrepared_sends).isSome := by
  rfl

/-- Node `0` has taken node `1`'s acknowledgement. -/
def trioAcked : World Nat := (deliverFirst trioPrepared trioPrepared_sends).get trioAck_isSome

/-- The connections are two calls of the sled agent. -/
theorem trioConnected_reachable : Reachable Node.inertPrimitives trioConnected :=
  (Reachable.initial.step
    (.sledAgent 0 (.onConnect 1) trivial (Option.eq_some_of_isSome trioLink_isSome))).step
    (.sledAgent 1 (.onConnect 0) trivial (Option.eq_some_of_isSome trioLinkBack_isSome))

theorem trioAcked_reachable : Reachable Node.inertPrimitives trioAcked := by
  -- Nexus stores epoch 1 and sends it to node 0
  have hstarted : Reachable Node.inertPrimitives trioStarted :=
    trioConnected_reachable.step (.reconfigure trioConfig trioRandomness (by rfl)
      ⟨rfl, by rfl, by rfl, by decide, rfl, rfl⟩ rfl
      (Option.eq_some_of_isSome trioStart_isSome))
  exact (hstarted.step (Step.deliverFirst trioStarted_sends []
    (Option.eq_some_of_isSome trioPrepare_isSome))).step
    (Step.deliverFirst trioPrepared_sends [] (Option.eq_some_of_isSome trioAck_isSome))

/-! ## 2. The safety properties -/

/-- **Configuration agreement.** In every reachable cluster, two nodes that saved a configuration
    for the same epoch saved the same one. It is the configuration recorded for the epoch in
    `all_coordinated_configs`, and the coordinator Nexus chose for the epoch holds it, as it
    saved it when it started preparing. -/
theorem configuration_agreement {w : World ι} (hw : Reachable P w) {a b : ι} {e : Nat}
    {ca cb : Configuration ι} (ha : (w.nodes a).2.persistentState.configs.lookup e = some ca)
    (hb : (w.nodes b).2.persistentState.configs.lookup e = some cb) :
    ca = cb ∧ w.allCoordinatedConfigs.lookup e = some ca ∧ w.CoordinatedBy e ca.coordinator ∧
      (w.nodes ca.coordinator).2.persistentState.configs.lookup e = some ca := by
  have hinv := inv_reachable hw
  have hrec := hinv.configs a e ca ha
  have hsame : ca = cb := by
    rw [hinv.configs b e cb hb, Option.some.injEq] at hrec
    exact hrec.symm
  exact ⟨hsame, hrec, hinv.ghost e ca hrec⟩

/-- The configuration node `0` saved for epoch `1` in the run `trioAcked`. -/
def trioConfiguration : Configuration Nat :=
  ((trioAcked.nodes 0).2.persistentState.configs.lookup 1).get (by rfl)

theorem configuration_agreement_trio :
    (trioAcked.nodes 1).2.persistentState.configs.lookup 1 = some trioConfiguration ∧
      trioAcked.allCoordinatedConfigs.lookup 1 = some trioConfiguration ∧
      trioAcked.CoordinatedBy 1 trioConfiguration.coordinator := by
  have ha : (trioAcked.nodes 0).2.persistentState.configs.lookup 1 = some trioConfiguration :=
    Option.eq_some_of_isSome _
  have hb : (trioAcked.nodes 1).2.persistentState.configs.lookup 1 = some trioConfiguration := by
    rfl
  obtain ⟨-, hrec, hby, -⟩ := configuration_agreement trioAcked_reachable ha hb
  exact ⟨hb, hrec, hby⟩

/-- **Prepare acknowledgements are sound.** In every reachable cluster, every node a preparing
    coordinator counts as acknowledged is a member of its configuration and has prepared its
    epoch -- restarts included, since a restart keeps the ledger. -/
theorem prepareAcks_prepared {w : World ι} (hw : Reachable P w) {a : ι}
    {cs : CoordinatorState ι} (hcs : (w.nodes a).1.coordinatorState = some cs)
    {prepares : Finmap fun _ : ι => Configuration ι × Share} {acks : Finset ι}
    (hop : cs.op = .prepare prepares acks) {b : ι} (hb : b ∈ acks) :
    b ∈ cs.configuration.members ∧ (w.nodes b).2.persistentState.hasPrepared cs.msg.epoch :=
  ⟨((Node.coordInv_reachable (hw.node a) cs hcs).preparing prepares acks hop).2.2 b hb,
    ((inv_reachable hw).coordinators a cs hcs).acked prepares acks hop b hb⟩

/-- Node `0`'s coordinator in the run `trioAcked`, preparing epoch `1`. -/
def trioCoordinator : CoordinatorState Nat :=
  (trioAcked.nodes 0).1.coordinatorState.get (by rfl)

/-- The prepares the coordinator sent. -/
def trioPrepares : Finmap fun _ : Nat => Configuration Nat × Share :=
  match trioCoordinator.op with
  | .prepare prepares _ => prepares
  | _ => ∅

theorem prepareAcks_prepared_trio :
    1 ∈ trioCoordinator.op.ackedPrepares ∧ (1 ∈ trioCoordinator.configuration.members ∧
      (trioAcked.nodes 1).2.persistentState.hasPrepared trioCoordinator.msg.epoch) := by
  have hop : trioCoordinator.op = .prepare trioPrepares trioCoordinator.op.ackedPrepares :=
    rfl
  have hb : 1 ∈ trioCoordinator.op.ackedPrepares := by decide
  exact ⟨hb, prepareAcks_prepared trioAcked_reachable (Option.eq_some_of_isSome _) hop hb⟩

/-- **No node coordinates and computes a key share at once**, in every reachable cluster under
    Nexus: Nexus commits only its latest epoch, never an aborted one, and hands each coordinator
    its last committed epoch. -/
theorem not_coordinating_and_computing {w : World ι} (hw : Reachable P w) (a : ι) :
    ¬ ((w.nodes a).1.coordinatorState.isSome ∧ (w.nodes a).1.keyShareComputer.isSome) := by
  rintro ⟨hcs, hk⟩
  rcases (inv_reachable hw).exclusive a with h | h
  · rw [h] at hcs
    cases hcs
  · rw [h] at hk
    cases hk

theorem not_coordinating_and_computing_trio :
    (trioAcked.nodes 0).1.coordinatorState.isSome ∧
      ¬ ((trioAcked.nodes 0).1.coordinatorState.isSome ∧
        (trioAcked.nodes 0).1.keyShareComputer.isSome) :=
  ⟨by rfl, not_coordinating_and_computing trioAcked_reachable 0⟩

end World

end Omicron.TrustQuorum
