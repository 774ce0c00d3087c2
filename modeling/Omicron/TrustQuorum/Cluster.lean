import Omicron.TrustQuorum.NodeEffect
import Omicron.TrustQuorum.Nexus

/-!
# Trust quorum: a cluster under Nexus

The cluster of the test harness (`TqState` of `test-utils`): a node for every id of the member
universe `ι`, the bootstrap network between them, the underlay network that carries replies to
Nexus, Nexus, and `all_coordinated_configs`, the ghost map of every configuration a coordinator
created, recorded as the harness records it: the first time a node's latest configuration shows
an epoch the map does not have.

A step is one event of the harness (`Event`, applied by `TqState::apply_event`), with the choices
of its generator (`tests/cluster.rs`) left free wherever the protocol does not depend on them:

* an envelope in flight is delivered, in any order and to a node in any state (the harness pops
  the last one of its destination's queue);
* the sled agent calls `load_rack_secret`, `clear_secrets`, `on_connect` or `on_disconnect`;
* a node crashes and restarts: a new `Node` over its persistent state;
* Nexus stores its next configuration -- one epoch beyond its latest, carrying its last
  committed epoch -- and sends `ReconfigureMsg` or, while the rack still runs LRTQ,
  `LrtqUpgradeMsg` to the coordinator it chose, unless that one is down;
* Nexus aborts its latest configuration while it prepares, polls its coordinator for prepare
  acknowledgements, takes a reply off the underlay network, and, once it committed, sends
  `commit_configuration` or `prepare_and_commit` to a member.

`Reachable.node` connects the cluster to the runs of one node: every node of a reachable cluster
is a reachable node, so the node-level results hold at every node of every cluster.
-/

set_option linter.unusedSectionVars false

namespace Omicron.TrustQuorum

open Omicron.Gfss NodeCtx PersistentState

/-! ## 1. The cluster -/

/-- `TqState`, without the log, the member universe and the sets of crashed and expunged nodes,
    which only steer the generator. -/
structure World (ι : Type) where
  nodes : ι → Node ι × NodeCtx ι
  bootstrapNetwork : List (Envelope ι)
  underlayNetwork : List (NexusReply ι)
  nexus : NexusState ι
  allCoordinatedConfigs : Finmap fun _ : Nat => Configuration ι

namespace Node.Call

variable {ι : Type}

/-- The calls the sled agent makes on its own: rack secret requests and connection changes. -/
def FromSledAgent : Node.Call ι → Prop
  | .onConnect _ | .onDisconnect _ | .loadRackSecret _ | .clearSecrets => True
  | _ => False

end Node.Call

namespace NexusState

variable {ι : Type} [LinearOrder ι]

/-- The configuration Nexus stores next (`NexusConfig::new` in the generator's `Reconfigure`, the
    latest one with its epoch bumped in `LrtqUpgrade`): preparing, one epoch beyond the latest,
    carrying the last committed epoch, coordinated by a member, with nobody prepared or
    committed. -/
structure IsNextConfig (s : NexusState ι) (c : NexusConfig ι) : Prop where
  op : c.op = .preparing
  epoch : c.epoch = s.nextEpoch
  lastCommittedEpoch : c.lastCommittedEpoch = s.lastCommittedConfig.map (·.epoch)
  coordinator : c.coordinator ∈ c.members
  preparedMembers : c.preparedMembers = ∅
  committedMembers : c.committedMembers = ∅

end NexusState

namespace World

variable {ι : Type} [LinearOrder ι] {P : Primitives}

/-- The node `a` after an event, with what it queued put on the bootstrap network
    (`send_envelopes`). -/
def putNode (w : World ι) (a : ι) (s : Node ι × NodeCtx ι) : World ι :=
  { w with
    nodes := Function.update w.nodes a (s.1, s.2.drainEnvelopes.2)
    bootstrapNetwork := w.bootstrapNetwork ++ s.2.drainEnvelopes.1 }

/-- The harness's bookkeeping after a node handled an event: the node's latest configuration
    joins `all_coordinated_configs` if its epoch is not there yet. -/
def recordCoordinated (w : World ι) (a : ι) : World ι :=
  match (w.nodes a).2.persistentState.latestConfig with
  | some c =>
    if c.epoch ∈ w.allCoordinatedConfigs then w
    else { w with allCoordinatedConfigs := w.allCoordinatedConfigs.insert c.epoch c }
  | none => w

/-- The cluster after node `a` handled an event and came out as `s`. -/
def afterCall (w : World ι) (a : ι) (s : Node ι × NodeCtx ι) : World ι :=
  (w.putNode a s).recordCoordinated a

variable (P) in
/-- A call at node `a`, its envelopes put on the network and its configuration recorded; `none`
    where the call panics. -/
def runNode (w : World ι) (a : ι) (c : Node.Call ι) : Option (World ι) :=
  (Node.call P c (w.nodes a)).map (w.afterCall a)

/-- `apply_event_crash_node` and then `apply_event_restart_node`: a new `Node` over the context
    with its mutable state cleared. The envelopes to the node the crash drops are those never
    delivered, and the connections are the sled agent's calls. -/
def restartNode (w : World ι) (a : ι) : World ι :=
  { w with nodes := Function.update w.nodes a (Node.new, (w.nodes a).2.clearMutableState) }

/-- The harness before `InitialSetup`: every node fresh, Nexus empty. -/
def initial : World ι :=
  ⟨fun a => Node.initial a none, [], [], NexusState.new, ∅⟩

/-- `InitialSetupLrtq`: each node with its LRTQ package, if it has one, and Nexus with the LRTQ
    configuration. -/
def initialLrtq (coordinator : ι) (members : Finset ι) (pkgs : ι → Option LrtqShareData) :
    World ι :=
  ⟨fun a => Node.initial a (pkgs a), [], [], NexusState.new.store (.newLrtq coordinator members),
    ∅⟩

/-! ## 2. Steps and reachable clusters -/

variable (P) in
/-- A step of the cluster: one event of the harness. -/
inductive Step : World ι → World ι → Prop
  /-- `DeliverEnvelope`: an envelope in flight, handled at its destination. -/
  | deliverEnvelope {w w' : World ι} {l₁ l₂ : List (Envelope ι)} (env : Envelope ι)
      (salt : Salt) (hnet : w.bootstrapNetwork = l₁ ++ env :: l₂)
      (h : runNode P { w with bootstrapNetwork := l₁ ++ l₂ } env.dest
        (.handle env.sender env.msg salt) = some w') : Step w w'
  /-- `LoadRackSecret`, `ClearSecrets`, and the connections the sled agent reports. -/
  | sledAgent {w w' : World ι} (a : ι) (c : Node.Call ι) (hc : c.FromSledAgent)
      (h : runNode P w a c = some w') : Step w w'
  /-- `CrashNode`, then `RestartNode`. -/
  | restartNode (w : World ι) (a : ι) : Step w (w.restartNode a)
  /-- `Reconfigure` (and `InitialSetup`): Nexus stores its next configuration and sends its
      coordinator the `ReconfigureMsg`. -/
  | reconfigure {w w' : World ι} {nexus : NexusState ι} (c : NexusConfig ι) (rnd : ConfigRandomness)
      (hlrtq : w.nexus.needsUpgradeFromLrtq = false) (hc : w.nexus.IsNextConfig c)
      (hins : w.nexus.insertUnique c = some nexus)
      (h : runNode P { w with nexus } c.coordinator
        (.coordinateReconfiguration (c.toReconfigureMsg nexus.rackId) rnd) = some w') :
      Step w w'
  /-- `LrtqUpgrade`: the same with an `LrtqUpgradeMsg`, while the rack still runs LRTQ. -/
  | lrtqUpgrade {w w' : World ι} {nexus : NexusState ι} (c : NexusConfig ι) (rnd : ConfigRandomness)
      (hlrtq : w.nexus.needsUpgradeFromLrtq = true) (hc : w.nexus.IsNextConfig c)
      (hins : w.nexus.insertUnique c = some nexus)
      (h : runNode P { w with nexus } c.coordinator
        (.coordinateUpgradeFromLrtq (c.toLrtqUpgradeMsg nexus.rackId) rnd) = some w') :
      Step w w'
  /-- `Reconfigure` or `LrtqUpgrade` with the coordinator down: only Nexus changes. -/
  | reconfigureCrashed {w : World ι} {nexus : NexusState ι} (c : NexusConfig ι)
      (hc : w.nexus.IsNextConfig c) (hins : w.nexus.insertUnique c = some nexus) :
      Step w { w with nexus }
  /-- `AbortConfiguration` of the latest configuration, while Nexus prepares it. -/
  | abortConfiguration {w : World ι} {latest : NexusConfig ι} {nexus : NexusState ι}
      (hl : w.nexus.latestConfig = some latest) (hop : latest.op = .preparing)
      (h : w.nexus.abortConfiguration latest.epoch = some nexus) : Step w { w with nexus }
  /-- `SendNexusReplyOnUnderlay` of a poll: the coordinator of the latest configuration, once it
      saved a configuration of that epoch, answers with the members that acknowledged its
      `Prepare`. -/
  | sendNexusReplyOnUnderlay {w : World ι} {latest : NexusConfig ι} {cs : CoordinatorState ι}
      (hl : w.nexus.latestConfig = some latest) (hop : latest.op = .preparing)
      (hepoch : ((w.nodes latest.coordinator).2.persistentState.latestConfig.map (·.epoch)).getD 0 =
        latest.epoch)
      (hcs : (w.nodes latest.coordinator).1.coordinatorState = some cs) :
      Step w { w with underlayNetwork :=
        w.underlayNetwork ++ [.ackedPreparesFromCoordinator latest.epoch cs.op.ackedPrepares] }
  /-- `DeliverNexusReply`: a reply off the underlay network, in any order. -/
  | deliverNexusReply {w : World ι} {l₁ l₂ : List (NexusReply ι)} {nexus : NexusState ι}
      (reply : NexusReply ι) (hnet : w.underlayNetwork = l₁ ++ reply :: l₂)
      (h : w.nexus.deliverNexusReply reply = some nexus) :
      Step w { w with nexus, underlayNetwork := l₁ ++ l₂ }
  /-- `CommitConfiguration` at a prepared member of the latest configuration, once Nexus
      committed it; the member's acknowledgement goes on the underlay network. -/
  | commitConfiguration {w w' : World ι} {latest : NexusConfig ι} (a : ι)
      (hl : w.nexus.latestConfig = some latest) (hop : latest.op = .committed)
      (ha : a ∈ latest.preparedMembers)
      (h : runNode P w a (.commitConfiguration w.nexus.rackId latest.epoch) = some w') :
      Step w { w' with underlayNetwork := w'.underlayNetwork ++ [.commitAck a latest.epoch] }
  /-- `PrepareAndCommit` at a node, once Nexus committed its latest configuration, with the
      latest configuration of a prepared member. -/
  | prepareAndCommit {w w' : World ι} {latest : NexusConfig ι} {config : Configuration ι}
      (a p : ι) (hl : w.nexus.latestConfig = some latest) (hop : latest.op = .committed)
      (hp : p ∈ latest.preparedMembers)
      (hconfig : (w.nodes p).2.persistentState.latestConfig = some config)
      (h : runNode P w a (.prepareAndCommit config) = some w') : Step w w'

variable (P) in
/-- The clusters the harness reaches from either initial setup. -/
inductive Reachable : World ι → Prop
  | initial : Reachable initial
  | initialLrtq (coordinator : ι) (members : Finset ι) (pkgs : ι → Option LrtqShareData) :
      Reachable (initialLrtq coordinator members pkgs)
  | step {w w' : World ι} (hw : Reachable w) (h : Step P w w') : Reachable w'

/-! ## 3. What an event touches -/

section Frame

variable {w w' : World ι} {a b : ι} {s : Node ι × NodeCtx ι}

@[simp] theorem putNode_nodes_self : (w.putNode a s).nodes a = (s.1, s.2.drainEnvelopes.2) := by
  simp [putNode]

theorem putNode_nodes_of_ne (h : b ≠ a) : (w.putNode a s).nodes b = w.nodes b := by
  simp [putNode, h]

@[simp] theorem putNode_bootstrapNetwork :
    (w.putNode a s).bootstrapNetwork = w.bootstrapNetwork ++ s.2.outgoing := rfl

@[simp] theorem putNode_underlayNetwork : (w.putNode a s).underlayNetwork = w.underlayNetwork :=
  rfl

@[simp] theorem putNode_nexus : (w.putNode a s).nexus = w.nexus := rfl

@[simp] theorem putNode_allCoordinatedConfigs :
    (w.putNode a s).allCoordinatedConfigs = w.allCoordinatedConfigs := rfl

/-- The bookkeeping changes nothing but the ghost map. -/
theorem recordCoordinated_eq (w : World ι) (a : ι) :
    ∃ ghost, w.recordCoordinated a = { w with allCoordinatedConfigs := ghost } := by
  unfold recordCoordinated
  split
  · split_ifs
    · exact ⟨_, rfl⟩
    · exact ⟨_, rfl⟩
  · exact ⟨_, rfl⟩

@[simp] theorem recordCoordinated_nodes : (w.recordCoordinated a).nodes = w.nodes := by
  obtain ⟨g, hg⟩ := recordCoordinated_eq w a
  rw [hg]

@[simp] theorem recordCoordinated_bootstrapNetwork :
    (w.recordCoordinated a).bootstrapNetwork = w.bootstrapNetwork := by
  obtain ⟨g, hg⟩ := recordCoordinated_eq w a
  rw [hg]

@[simp] theorem recordCoordinated_underlayNetwork :
    (w.recordCoordinated a).underlayNetwork = w.underlayNetwork := by
  obtain ⟨g, hg⟩ := recordCoordinated_eq w a
  rw [hg]

@[simp] theorem recordCoordinated_nexus : (w.recordCoordinated a).nexus = w.nexus := by
  obtain ⟨g, hg⟩ := recordCoordinated_eq w a
  rw [hg]

/-- A recorded configuration stays recorded. -/
theorem recordCoordinated_lookup_of_lookup {e : Nat} {c : Configuration ι}
    (h : w.allCoordinatedConfigs.lookup e = some c) :
    (w.recordCoordinated a).allCoordinatedConfigs.lookup e = some c := by
  unfold recordCoordinated
  split
  · rename_i latest _
    split_ifs with hrec
    · exact h
    · have hne : e ≠ latest.epoch := by
        rintro rfl
        exact hrec (Finmap.mem_of_lookup_eq_some h)
      rw [Finmap.lookup_insert_of_ne _ hne]
      exact h
  · exact h

/-- What the ghost map holds after the bookkeeping: what it held, or the node's latest
    configuration under an epoch it did not have. -/
theorem recordCoordinated_lookup_eq_some {e : Nat} {c : Configuration ι}
    (h : (w.recordCoordinated a).allCoordinatedConfigs.lookup e = some c) :
    w.allCoordinatedConfigs.lookup e = some c ∨
      (e ∉ w.allCoordinatedConfigs ∧ (w.nodes a).2.persistentState.latestConfig = some c ∧
        c.epoch = e) := by
  unfold recordCoordinated at h
  split at h
  · rename_i latest hlatest
    split_ifs at h with hrec
    · exact .inl h
    · rcases Finmap.lookup_insert_eq_some h with ⟨rfl, rfl⟩ | hold
      · exact .inr ⟨hrec, hlatest, rfl⟩
      · exact .inl hold
  · exact .inl h

/-- After the bookkeeping the node's latest configuration is recorded: as it is, if its epoch was
    new. -/
theorem recordCoordinated_latest {c : Configuration ι}
    (h : (w.nodes a).2.persistentState.latestConfig = some c) :
    ∃ g, (w.recordCoordinated a).allCoordinatedConfigs.lookup c.epoch = some g ∧
      (w.allCoordinatedConfigs.lookup c.epoch = some g ∨ g = c) := by
  unfold recordCoordinated
  rw [h]
  dsimp only
  split_ifs with hrec
  · obtain ⟨g, hg⟩ := Finmap.mem_iff.mp hrec
    exact ⟨g, hg, .inl hg⟩
  · exact ⟨c, Finmap.lookup_insert _, .inr rfl⟩

@[simp] theorem afterCall_nodes_self : (w.afterCall a s).nodes a = (s.1, s.2.drainEnvelopes.2) := by
  rw [afterCall, recordCoordinated_nodes, putNode_nodes_self]

theorem afterCall_nodes_of_ne (h : b ≠ a) : (w.afterCall a s).nodes b = w.nodes b := by
  rw [afterCall, recordCoordinated_nodes, putNode_nodes_of_ne h]

@[simp] theorem afterCall_bootstrapNetwork :
    (w.afterCall a s).bootstrapNetwork = w.bootstrapNetwork ++ s.2.outgoing := by
  simp [afterCall]

@[simp] theorem afterCall_underlayNetwork :
    (w.afterCall a s).underlayNetwork = w.underlayNetwork := by
  simp [afterCall]

@[simp] theorem afterCall_nexus : (w.afterCall a s).nexus = w.nexus := by
  simp [afterCall]

theorem afterCall_lookup_of_lookup {e : Nat} {c : Configuration ι}
    (h : w.allCoordinatedConfigs.lookup e = some c) :
    (w.afterCall a s).allCoordinatedConfigs.lookup e = some c :=
  recordCoordinated_lookup_of_lookup h

/-- What the ghost map holds after a call: what it held, or the node's latest configuration
    under an epoch it did not have. -/
theorem afterCall_lookup_eq_some {e : Nat} {c : Configuration ι}
    (h : (w.afterCall a s).allCoordinatedConfigs.lookup e = some c) :
    w.allCoordinatedConfigs.lookup e = some c ∨
      (e ∉ w.allCoordinatedConfigs ∧ s.2.persistentState.latestConfig = some c ∧ c.epoch = e) := by
  have h' := recordCoordinated_lookup_eq_some h
  rw [putNode_nodes_self] at h'
  exact h'

/-- After a call the node's latest configuration is recorded: as it is, if its epoch was new. -/
theorem afterCall_latest {c : Configuration ι} (h : s.2.persistentState.latestConfig = some c) :
    ∃ g, (w.afterCall a s).allCoordinatedConfigs.lookup c.epoch = some g ∧
      (w.allCoordinatedConfigs.lookup c.epoch = some g ∨ g = c) :=
  recordCoordinated_latest (by rw [putNode_nodes_self]; exact h)

/-- **`runNode`**: the call, then the node put back and its configuration recorded. -/
theorem runNode_eq_some {c : Node.Call ι} (h : runNode P w a c = some w') :
    ∃ n' ctx', Node.call P c (w.nodes a) = some (n', ctx') ∧ w' = w.afterCall a (n', ctx') := by
  unfold runNode at h
  obtain ⟨⟨n', ctx'⟩, hc, rfl⟩ := Option.map_eq_some_iff.mp h
  exact ⟨n', ctx', hc, rfl⟩

@[simp] theorem restartNode_nodes_self :
    (w.restartNode a).nodes a = (Node.new, (w.nodes a).2.clearMutableState) := by
  simp [restartNode]

theorem restartNode_nodes_of_ne (h : b ≠ a) : (w.restartNode a).nodes b = w.nodes b := by
  simp [restartNode, h]

end Frame

/-! ## 4. Every node runs as a node -/

/-- A node put back after a call is a reachable node: the call, then its queue drained. -/
theorem reachable_afterCall {w : World ι} {a : ι} {c : Node.Call ι} {s : Node ι × NodeCtx ι}
    (hc : Node.call P c (w.nodes a) = some s) (hb : ∀ b, Node.Reachable P (w.nodes b)) (b : ι) :
    Node.Reachable P ((w.afterCall a s).nodes b) := by
  by_cases hba : b = a
  · subst hba
    rw [afterCall_nodes_self]
    exact ((hb b).step (.call c hc)).step (.drain s.1 s.2)
  · rw [afterCall_nodes_of_ne hba]
    exact hb b

theorem reachable_runNode {w w' : World ι} {a : ι} {c : Node.Call ι}
    (h : runNode P w a c = some w') (hb : ∀ b, Node.Reachable P (w.nodes b)) (b : ι) :
    Node.Reachable P (w'.nodes b) := by
  obtain ⟨n', ctx', hc, rfl⟩ := runNode_eq_some h
  exact reachable_afterCall hc hb b

/-- One event keeps every node a reachable node. -/
theorem reachable_step {w w' : World ι} (hb : ∀ b, Node.Reachable P (w.nodes b))
    (hs : Step P w w') (b : ι) : Node.Reachable P (w'.nodes b) := by
  cases hs with
  | deliverEnvelope env salt hnet h => exact reachable_runNode h hb b
  | sledAgent a c hc h => exact reachable_runNode h hb b
  | restartNode a =>
    by_cases hba : b = a
    · subst hba
      rw [restartNode_nodes_self]
      exact (hb b).step (.restart _ _)
    · rw [restartNode_nodes_of_ne hba]
      exact hb b
  | reconfigure c rnd hlrtq hc hins h => exact reachable_runNode h hb b
  | lrtqUpgrade c rnd hlrtq hc hins h => exact reachable_runNode h hb b
  | reconfigureCrashed c hc hins => exact hb b
  | abortConfiguration hl hop h => exact hb b
  | sendNexusReplyOnUnderlay hl hop hepoch hcs => exact hb b
  | deliverNexusReply reply hnet h => exact hb b
  | commitConfiguration a hl hop ha h => exact reachable_runNode h hb b
  | prepareAndCommit a p hl hop hp hconfig h => exact reachable_runNode h hb b

/-- **Every node of a reachable cluster is a reachable node.** -/
theorem Reachable.node {w : World ι} (hw : Reachable P w) (a : ι) : Node.Reachable P (w.nodes a) := by
  induction hw generalizing a with
  | initial => exact .initial a none
  | initialLrtq coordinator members pkgs => exact .initial a (pkgs a)
  | step _ hs ih => exact reachable_step ih hs a

end World

end Omicron.TrustQuorum
