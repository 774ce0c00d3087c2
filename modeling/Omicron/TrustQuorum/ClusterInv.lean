import Omicron.TrustQuorum.Cluster

/-!
# Trust quorum: what every reachable cluster keeps

The invariant of a cluster under Nexus (`World.Inv`), proved of every reachable cluster
(`inv_reachable`) from what a call leaves behind at its node (`Node.Leaves`) and from what Nexus
never undoes (`NexusState.Extends`). What is in flight is true (`MsgOk`, `ReplyOk`): an
acknowledgement is of a prepared epoch, a `Prepare` or a `CommitAdvance` carries a configuration
a coordinator created, a `CommitAdvance` only what Nexus committed. And for the nodes:

* every saved configuration is in the ghost map, under its epoch; the ghost map holds only
  configurations that the coordinator Nexus chose for their epoch still holds;
* a coordinator's epoch is one Nexus gave to its node; that node has committed up to every epoch
  Nexus committed before it; and every member it counts as acknowledged has prepared its epoch
  (`CoordFacts`);
* a node commits, and computes a key share for, only what Nexus committed;
* no node coordinates and computes a key share at once. A key share computer starts only for an
  epoch after the node's last commit, that Nexus committed, before the epoch of any coordinator
  that survives the call; and by `CoordFacts` the node has committed up to that epoch.

Each event gets its lemma: a call at a node (`Inv.afterCall`, from what the call is handed being
true, `CallOk`), Nexus changing its configurations (`Inv.withNexus`), a restart, the networks.
-/

set_option linter.unusedSectionVars false

namespace Omicron.TrustQuorum

open Omicron.Gfss NodeCtx PersistentState

namespace World

variable {ι : Type} [LinearOrder ι] {P : Primitives}

/-! ## 1. The invariant -/

/-- Nexus chose `a` to coordinate epoch `e`. -/
def CoordinatedBy (w : World ι) (e : Nat) (a : ι) : Prop :=
  ∃ nc, w.nexus.configs.lookup e = some nc ∧ nc.coordinator = a

/-- What a message from `sender` says is true. -/
def MsgOk (w : World ι) (sender : ι) : PeerMsgKind ι → Prop
  | .prepareAck e => (w.nodes sender).2.persistentState.hasPrepared e
  | .prepare c _ => w.allCoordinatedConfigs.lookup c.epoch = some c
  | .commitAdvance c =>
    w.allCoordinatedConfigs.lookup c.epoch = some c ∧ w.nexus.IsCommitted c.epoch
  | .getShare _ | .share _ _ | .getLrtqShare | .lrtqShare _ | .expunged _ => True

/-- What a reply to Nexus says is true. -/
def ReplyOk (w : World ι) : NexusReply ι → Prop
  | .ackedPreparesFromCoordinator e acks =>
    ∀ b ∈ acks, (w.nodes b).2.persistentState.hasPrepared e
  | .commitAck _ _ => True

/-- What a call at node `a` is handed is true: a true message; a commit of an epoch Nexus
    committed, or of a configuration a coordinator created; and a `ReconfigureMsg` or
    `LrtqUpgradeMsg` for an epoch Nexus gave to `a` and nobody created yet, carrying the last
    epoch Nexus committed (before an upgrade, there is none). -/
def CallOk (w : World ι) (a : ι) : Node.Call ι → Prop
  | .handle sender msg _ => w.MsgOk sender msg.kind
  | .commitConfiguration _ e => w.nexus.IsCommitted e
  | .prepareAndCommit config =>
    w.allCoordinatedConfigs.lookup config.epoch = some config ∧ w.nexus.IsCommitted config.epoch
  | .coordinateReconfiguration msg _ =>
    w.CoordinatedBy msg.epoch a ∧ msg.epoch ∉ w.allCoordinatedConfigs ∧
      ∀ e, w.nexus.IsCommitted e → ∃ l, msg.lastCommittedEpoch = some l ∧ e ≤ l
  | .coordinateUpgradeFromLrtq msg _ =>
    w.CoordinatedBy msg.epoch a ∧ msg.epoch ∉ w.allCoordinatedConfigs ∧
      ∀ e, ¬ w.nexus.IsCommitted e
  | .onConnect _ | .onDisconnect _ | .loadRackSecret _ | .clearSecrets => True

/-- What a coordinator at node `a` keeps true of the cluster. -/
structure CoordFacts (w : World ι) (a : ι) (cs : CoordinatorState ι) : Prop where
  /-- Nexus gave its epoch to `a`. -/
  coordinatedBy : w.CoordinatedBy cs.msg.epoch a
  /-- `a` has committed up to every epoch Nexus committed before the coordinator's. -/
  committed : ∀ e, w.nexus.IsCommitted e → e < cs.msg.epoch →
    ∃ l, (w.nodes a).2.persistentState.latestCommittedEpoch = some l ∧ e ≤ l
  /-- Every member counted as acknowledged has prepared. -/
  acked : ∀ prepares acks, cs.op = .prepare prepares acks → ∀ b ∈ acks,
    (w.nodes b).2.persistentState.hasPrepared cs.msg.epoch

variable (P) in
/-- What every reachable cluster satisfies. -/
structure Inv (w : World ι) : Prop where
  node : ∀ a, Node.Reachable P (w.nodes a)
  platformId : ∀ a, (w.nodes a).2.platformId = a
  drained : ∀ a, (w.nodes a).2.outgoing = []
  /-- A recorded configuration is held by the coordinator Nexus chose for its epoch. -/
  ghost : ∀ e g, w.allCoordinatedConfigs.lookup e = some g →
    w.CoordinatedBy e g.coordinator ∧
      (w.nodes g.coordinator).2.persistentState.configs.lookup e = some g
  /-- A saved configuration is the recorded one. -/
  configs : ∀ a e g, (w.nodes a).2.persistentState.configs.lookup e = some g →
    w.allCoordinatedConfigs.lookup e = some g
  coordinators : ∀ a cs, (w.nodes a).1.coordinatorState = some cs → w.CoordFacts a cs
  commits : ∀ a, ∀ e ∈ (w.nodes a).2.persistentState.commits, w.nexus.IsCommitted e
  computing : ∀ a k, (w.nodes a).1.keyShareComputer = some k → w.nexus.IsCommitted k.config.epoch
  exclusive : ∀ a, (w.nodes a).1.coordinatorState = none ∨ (w.nodes a).1.keyShareComputer = none
  /-- Nexus counts as prepared only members that prepared. -/
  prepared : ∀ e nc, w.nexus.configs.lookup e = some nc → ∀ b ∈ nc.preparedMembers,
    (w.nodes b).2.persistentState.hasPrepared e
  bootstrap : ∀ env ∈ w.bootstrapNetwork, w.MsgOk env.sender env.msg.kind
  underlay : ∀ r ∈ w.underlayNetwork, w.ReplyOk r

/-! ## 2. What only grows -/

/-- `w'` extends `w`: every ledger, the ghost map and Nexus. -/
structure Grows (w w' : World ι) : Prop where
  ps : ∀ b, (w.nodes b).2.persistentState.Extends (w'.nodes b).2.persistentState
  ghost : ∀ e g, w.allCoordinatedConfigs.lookup e = some g →
    w'.allCoordinatedConfigs.lookup e = some g
  nexus : w.nexus.Extends w'.nexus

section Grows

variable {w w' : World ι} {e : Nat} {a b : ι}

theorem CoordinatedBy.mono (h : w.CoordinatedBy e a) (hn : w.nexus.Extends w'.nexus) :
    w'.CoordinatedBy e a := by
  obtain ⟨nc, hnc, rfl⟩ := h
  obtain ⟨nc', hnc', hco, -⟩ := hn.configs e nc hnc
  exact ⟨nc', hnc', hco⟩

/-- Nexus chooses one coordinator per epoch. -/
theorem CoordinatedBy.unique (ha : w.CoordinatedBy e a) (hb : w.CoordinatedBy e b) : a = b := by
  obtain ⟨nc, hnc, rfl⟩ := ha
  obtain ⟨nc', hnc', rfl⟩ := hb
  rw [hnc, Option.some.injEq] at hnc'
  rw [hnc']

theorem MsgOk.mono {k : PeerMsgKind ι} (h : w.MsgOk a k) (hg : w.Grows w') : w'.MsgOk a k := by
  cases k with
  | prepareAck e => exact (hg.ps a).hasPrepared h
  | prepare c _ => exact hg.ghost _ _ h
  | commitAdvance c => exact ⟨hg.ghost _ _ h.1, hg.nexus.committed _ h.2⟩
  | getShare _ | share _ _ | getLrtqShare | lrtqShare _ | expunged _ => trivial

theorem ReplyOk.mono {r : NexusReply ι} (h : w.ReplyOk r) (hg : w.Grows w') : w'.ReplyOk r := by
  cases r with
  | ackedPreparesFromCoordinator e acks => exact fun b hb => (hg.ps b).hasPrepared (h b hb)
  | commitAck _ _ => trivial

/-- A coordinator's facts survive growth that commits nothing new before its epoch. -/
theorem CoordFacts.mono {cs : CoordinatorState ι} (h : w.CoordFacts a cs) (hg : w.Grows w')
    (hnew : ∀ e, w'.nexus.IsCommitted e → e < cs.msg.epoch → w.nexus.IsCommitted e) :
    w'.CoordFacts a cs := by
  refine ⟨h.coordinatedBy.mono hg.nexus, fun e he hlt => ?_,
    fun prepares acks hop b hb => (hg.ps b).hasPrepared (h.acked prepares acks hop b hb)⟩
  obtain ⟨l, hl, hle⟩ := h.committed e (hnew e he hlt) hlt
  obtain ⟨l', hl', hll'⟩ := (hg.ps a).latestCommittedEpoch_le hl
  exact ⟨l', hl', hle.trans hll'⟩

/-- A coordinator that goes on in its phase keeps its facts. -/
theorem CoordFacts.of_continues {cs cs' : CoordinatorState ι} (h : w.CoordFacts a cs)
    (hc : cs.Continues cs') : w.CoordFacts a cs' := by
  refine ⟨hc.msg ▸ h.coordinatedBy, fun e he hlt => h.committed e he (hc.msg ▸ hlt),
    fun prepares acks hop b hb => ?_⟩
  rw [hc.msg]
  rcases hc.op with hop₀ | ⟨-, hcol⟩
  · exact h.acked prepares acks (hop₀ ▸ hop) b hb
  · rw [hop] at hcol
    cases hcol

/-- Nexus extends, nothing else changes. -/
theorem grows_withNexus {nexus : NexusState ι} (hn : w.nexus.Extends nexus) :
    w.Grows { w with nexus } :=
  ⟨fun _ => Extends.refl _, fun _ _ h => h, hn⟩

end Grows

/-! ## 3. A call at a node -/

section Call

variable {w : World ι} {a : ι} {c : Node.Call ι} {g : Configuration ι}

theorem callOk_commitsConfig (hok : w.CallOk a c) (h : c.CommitsConfig g) :
    w.allCoordinatedConfigs.lookup g.epoch = some g ∧ w.nexus.IsCommitted g.epoch := by
  rcases h with ⟨sender, msg, salt, rfl, hkind⟩ | rfl
  · have hm : w.MsgOk sender msg.kind := hok
    rw [hkind] at hm
    exact hm
  · exact hok

theorem callOk_offers (hok : w.CallOk a c) (h : c.Offers g) :
    w.allCoordinatedConfigs.lookup g.epoch = some g := by
  rcases h with ⟨sender, msg, salt, share, rfl, hkind⟩ | h
  · have hm : w.MsgOk sender msg.kind := hok
    rw [hkind] at hm
    exact hm
  · exact (callOk_commitsConfig hok h).1

theorem callOk_commits (hok : w.CallOk a c) {e : Nat} (h : c.Commits e) : w.nexus.IsCommitted e := by
  rcases h with ⟨rackId, rfl⟩ | ⟨g, hg, rfl⟩
  · exact hok
  · exact (callOk_commitsConfig hok hg).2

/-- What the sled agent asks needs nothing. -/
theorem callOk_of_fromSledAgent (h : c.FromSledAgent) : w.CallOk a c := by
  cases c <;> trivial

variable {n' : Node ι} {ctx' : NodeCtx ι}

/-- A call only extends. -/
theorem grows_afterCall (hc : Node.call P c (w.nodes a) = some (n', ctx')) :
    w.Grows (w.afterCall a (n', ctx')) := by
  refine ⟨fun b => ?_, fun _ _ h => afterCall_lookup_of_lookup h, by
    rw [afterCall_nexus]
    exact .refl _⟩
  by_cases hb : b = a
  · subst hb
    rw [afterCall_nodes_self]
    exact (Node.call_leaves hc).ext
  · rw [afterCall_nodes_of_ne hb]

theorem Inv.reachable_call (hinv : Inv P w) (hc : Node.call P c (w.nodes a) = some (n', ctx')) :
    Node.Reachable P (n', ctx') :=
  (hinv.node a).step (.call c hc)

/-- A node is not both coordinating and computing. -/
theorem Inv.not_both (hinv : Inv P w) {b : ι} {cs : CoordinatorState ι} {k : KeyShareComputer ι}
    (hcs : (w.nodes b).1.coordinatorState = some cs) (hk : (w.nodes b).1.keyShareComputer = some k) :
    False := by
  rcases hinv.exclusive b with h | h
  · rw [h] at hcs
    cases hcs
  · rw [h] at hk
    cases hk

/-- The coordinator a call leaves is for an epoch Nexus gave to the node. -/
theorem Inv.coordinatedBy_call (hinv : Inv P w) (hok : w.CallOk a c)
    (hc : Node.call P c (w.nodes a) = some (n', ctx')) {cs' : CoordinatorState ι}
    (hcs' : n'.coordinatorState = some cs') : w.CoordinatedBy cs'.msg.epoch a := by
  cases (Node.call_leaves hc).coordinator cs' hcs' with
  | continues hcs hcont =>
    rw [hcont.msg]
    exact (hinv.coordinators a _ hcs).coordinatedBy
  | acks hcs hcall hkind hmem hop hmsg hconf hop' =>
    rw [hmsg]
    exact (hinv.coordinators a _ hcs).coordinatedBy
  | jumps hcs hj =>
    rw [hj.msg]
    exact (hinv.coordinators a _ hcs).coordinatedBy
  | reconfigures hcall hlce hfresh hepoch hconf hcoord hmem hksc hop =>
    subst hcall
    obtain ⟨hby, -, -⟩ := hok
    rw [hepoch]
    exact hby
  | upgrades hcall hlce hfresh hepoch hconf hcoord hmem hksc hcol hps =>
    subst hcall
    obtain ⟨hby, -, -⟩ := hok
    rw [hepoch]
    exact hby

/-- **Saved configurations are the recorded ones** after a call. A configuration the call
    saves is handed to it, hence recorded, or is that of the coordinator the call leaves, which
    is the node's latest and so recorded now -- unless its epoch was recorded before, by the
    coordinator Nexus chose, the node itself, which then held it already. -/
theorem Inv.configs_afterCall (hinv : Inv P w) (hok : w.CallOk a c)
    (hc : Node.call P c (w.nodes a) = some (n', ctx')) (b : ι) (e : Nat) (g : Configuration ι)
    (h : ((w.afterCall a (n', ctx')).nodes b).2.persistentState.configs.lookup e = some g) :
    (w.afterCall a (n', ctx')).allCoordinatedConfigs.lookup e = some g := by
  by_cases hb : b = a
  swap
  · rw [afterCall_nodes_of_ne hb] at h
    exact afterCall_lookup_of_lookup (hinv.configs b e g h)
  subst hb
  rw [afterCall_nodes_self] at h
  change ctx'.persistentState.configs.lookup e = some g at h
  have hl := Node.call_leaves hc
  have hr := hinv.reachable_call hc
  have hkey : g.epoch = e := (Node.inv_reachable hr).wf.keyed e g h
  rcases hl.configs e g h with hold | ⟨hoff, -⟩ | ⟨cs', prepares, acks, hcs', hop, rfl⟩
  · exact afterCall_lookup_of_lookup (hinv.configs b e g hold)
  · rw [← hkey]
    exact afterCall_lookup_of_lookup (callOk_offers hok hoff)
  · have hci := Node.coordInv_reachable hr cs' hcs'
    obtain ⟨hsaved, -, -⟩ := hci.preparing prepares acks hop
    rw [← hci.epoch] at hsaved
    have hlatest := latestConfig_eq_of_max hsaved (hci.epoch ▸ hci.latest)
    obtain ⟨g', hg', hold | rfl⟩ := afterCall_latest (w := w) (a := b) hlatest
    · obtain ⟨hby, hheld⟩ := hinv.ghost _ _ hold
      have hcoord : g'.coordinator = b :=
        hby.unique (hci.epoch ▸ hinv.coordinatedBy_call hok hc hcs')
      rw [hcoord] at hheld
      have hsame := hl.ext.configs _ _ hheld
      rw [hsaved, Option.some.injEq] at hsame
      rw [← hkey, hg', hsame]
    · rw [← hkey]
      exact hg'

/-- **Recorded configurations are held by their coordinator** after a call: a newly recorded one
    is the node's latest, which no other source offers unrecorded, so it is its own
    coordinator's, for the epoch Nexus gave it. -/
theorem Inv.ghost_afterCall (hinv : Inv P w) (hok : w.CallOk a c)
    (hc : Node.call P c (w.nodes a) = some (n', ctx')) (e : Nat) (g : Configuration ι)
    (h : (w.afterCall a (n', ctx')).allCoordinatedConfigs.lookup e = some g) :
    (w.afterCall a (n', ctx')).CoordinatedBy e g.coordinator ∧
      ((w.afterCall a (n', ctx')).nodes g.coordinator).2.persistentState.configs.lookup e =
        some g := by
  have hg := grows_afterCall hc
  rcases afterCall_lookup_eq_some h with hold | ⟨hfresh, hlatest, hkey⟩
  · obtain ⟨hby, hheld⟩ := hinv.ghost e g hold
    exact ⟨hby.mono hg.nexus, (hg.ps _).configs _ _ hheld⟩
  have hr := hinv.reachable_call hc
  have hl := Node.call_leaves hc
  obtain ⟨hsaved, -⟩ := (Node.inv_reachable hr).wf.latestConfig_eq_some hlatest
  rw [hkey] at hsaved
  rcases hl.configs e g hsaved with hold | ⟨hoff, -⟩ | ⟨cs', prepares, acks, hcs', hop, rfl⟩
  · exact absurd (Finmap.mem_of_lookup_eq_some (hinv.configs a e g hold)) hfresh
  · exact absurd (Finmap.mem_of_lookup_eq_some (hkey ▸ callOk_offers hok hoff)) hfresh
  · have hci := Node.coordInv_reachable hr cs' hcs'
    have hcoord : cs'.configuration.coordinator = a :=
      hci.coordinator.trans (hl.queues.platformId.trans (hinv.platformId a))
    rw [hcoord, afterCall_nodes_self]
    refine ⟨?_, hsaved⟩
    rw [← hkey, hci.epoch]
    exact (hinv.coordinatedBy_call hok hc hcs').mono hg.nexus

/-- The node, acknowledged by the coordinator it starts preparing: it saved the configuration
    with its share. -/
theorem Inv.hasPrepared_saved (hinv : Inv P w) (hc : Node.call P c (w.nodes a) = some (n', ctx'))
    {cs : CoordinatorState ι} (hcs : n'.coordinatorState = some cs) {share : Share}
    (hps : ctx'.persistentState =
      (w.nodes a).2.persistentState.saveConfigAndShare cs.configuration share)
    {x : ι} (hx : x ∈ ({(w.nodes a).2.platformId} : Finset ι)) :
    ((w.afterCall a (n', ctx')).nodes x).2.persistentState.hasPrepared cs.msg.epoch := by
  rw [Finset.mem_singleton, hinv.platformId a] at hx
  subst hx
  rw [afterCall_nodes_self]
  change ctx'.persistentState.hasPrepared cs.msg.epoch
  rw [hps, ← (Node.coordInv_reachable (hinv.reachable_call hc) cs hcs).epoch]
  exact saveConfigAndShare_hasPrepared _ _ _

/-- **A coordinator's facts** after a call, by how the coordinator came about. -/
theorem Inv.coordinators_afterCall (hinv : Inv P w) (hok : w.CallOk a c)
    (hc : Node.call P c (w.nodes a) = some (n', ctx')) (b : ι) (cs : CoordinatorState ι)
    (hcs : ((w.afterCall a (n', ctx')).nodes b).1.coordinatorState = some cs) :
    (w.afterCall a (n', ctx')).CoordFacts b cs := by
  have hg := grows_afterCall hc
  -- a call leaves Nexus alone, so it commits nothing new
  have hsame : ∀ e, (w.afterCall a (n', ctx')).nexus.IsCommitted e → w.nexus.IsCommitted e :=
    fun e he => by rwa [afterCall_nexus] at he
  have hold : ∀ cs₀, (w.nodes b).1.coordinatorState = some cs₀ →
      (w.afterCall a (n', ctx')).CoordFacts b cs₀ :=
    fun cs₀ hcs₀ => (hinv.coordinators b cs₀ hcs₀).mono hg fun e he _ => hsame e he
  by_cases hb : b = a
  swap
  · rw [afterCall_nodes_of_ne hb] at hcs
    exact hold cs hcs
  subst hb
  rw [afterCall_nodes_self] at hcs
  change n'.coordinatorState = some cs at hcs
  cases (Node.call_leaves hc).coordinator cs hcs with
  | continues hcs₀ hcont => exact (hold _ hcs₀).of_continues hcont
  | @acks cs₀ sender msg salt prepares acks hcs₀ hcall hkind hmem hop hmsg hconf hop' =>
    have hf := hold _ hcs₀
    refine ⟨hmsg ▸ hf.coordinatedBy, fun e he hlt => hf.committed e he (hmsg ▸ hlt),
      fun prepares' acks' hop'' x hx => ?_⟩
    rw [hop'] at hop''
    cases hop''
    rw [hmsg]
    rcases Finset.mem_insert.mp hx with hxs | hx
    · -- the acknowledgement just taken: its sender had prepared
      subst hcall hxs
      have hm : w.MsgOk x msg.kind := hok
      rw [hkind] at hm
      exact (hg.ps x).hasPrepared hm
    · exact hf.acked _ _ hop x hx
  | jumps hcs₀ hj =>
    have hf := hold _ hcs₀
    obtain ⟨share, hps⟩ := hj.ps
    obtain ⟨prepares, hop, -⟩ := hj.op
    refine ⟨hj.msg ▸ hf.coordinatedBy, fun e he hlt => hf.committed e he (hj.msg ▸ hlt),
      fun prepares' acks' hop' x hx => ?_⟩
    rw [hop] at hop'
    cases hop'
    exact hinv.hasPrepared_saved hc hcs hps hx
  | reconfigures hcall hlce hfresh hepoch hconf hcoord hmem hksc hop =>
    subst hcall
    obtain ⟨hby, -, hlast⟩ := hok
    refine ⟨hepoch ▸ hby.mono hg.nexus, fun e he _ => ?_, fun prepares acks hop' x hx => ?_⟩
    · -- the request carries the last committed epoch, which is the node's
      obtain ⟨l, hl, hle⟩ := hlast e (hsame e he)
      rw [hlce] at hl
      obtain ⟨l', hl', hll'⟩ := (hg.ps b).latestCommittedEpoch_le hl
      exact ⟨l', hl', hle.trans hll'⟩
    · rcases hop with ⟨hcol, -⟩ | ⟨prepares₀, share, hop₀, -, hps⟩
      · rw [hop'] at hcol
        cases hcol
      · rw [hop₀] at hop'
        cases hop'
        exact hinv.hasPrepared_saved hc hcs hps hx
  | upgrades hcall hlce hfresh hepoch hconf hcoord hmem hksc hcol hps =>
    subst hcall
    obtain ⟨hby, -, hnone⟩ := hok
    refine ⟨hepoch ▸ hby.mono hg.nexus, fun e he _ => absurd (hsame e he) (hnone e),
      fun prepares acks hop' => ?_⟩
    rw [hop'] at hcol
    cases hcol

theorem Inv.commits_afterCall (hinv : Inv P w) (hok : w.CallOk a c)
    (hc : Node.call P c (w.nodes a) = some (n', ctx')) (b : ι) (e : Nat)
    (he : e ∈ ((w.afterCall a (n', ctx')).nodes b).2.persistentState.commits) :
    (w.afterCall a (n', ctx')).nexus.IsCommitted e := by
  rw [afterCall_nexus]
  by_cases hb : b = a
  swap
  · rw [afterCall_nodes_of_ne hb] at he
    exact hinv.commits b e he
  subst hb
  rw [afterCall_nodes_self] at he
  rcases (Node.call_leaves hc).commits e he with hold | hcall | ⟨k, hk, rfl⟩
  · exact hinv.commits b e hold
  · exact callOk_commits hok hcall
  · exact hinv.computing b k hk

theorem Inv.computing_afterCall (hinv : Inv P w) (hok : w.CallOk a c)
    (hc : Node.call P c (w.nodes a) = some (n', ctx')) (b : ι) (k : KeyShareComputer ι)
    (hk : ((w.afterCall a (n', ctx')).nodes b).1.keyShareComputer = some k) :
    (w.afterCall a (n', ctx')).nexus.IsCommitted k.config.epoch := by
  rw [afterCall_nexus]
  by_cases hb : b = a
  swap
  · rw [afterCall_nodes_of_ne hb] at hk
    exact hinv.computing b k hk
  subst hb
  rw [afterCall_nodes_self] at hk
  rcases (Node.call_leaves hc).computing k hk with ⟨k₀, hk₀, hcfg⟩ | ⟨hcall, -, -⟩
  · rw [hcfg]
    exact hinv.computing b k₀ hk₀
  · exact (callOk_commitsConfig hok hcall).2

/-- **No node coordinates and computes a key share at once** after a call. A computer the call
    keeps meets a coordinator it keeps too, or a new one, which cancels it. A computer the call
    starts is for a committed epoch after the node's last commit and before the coordinator's
    epoch -- but up to that epoch the node has committed everything Nexus did. -/
theorem Inv.exclusive_afterCall (hinv : Inv P w) (hok : w.CallOk a c)
    (hc : Node.call P c (w.nodes a) = some (n', ctx')) (b : ι) :
    ((w.afterCall a (n', ctx')).nodes b).1.coordinatorState = none ∨
      ((w.afterCall a (n', ctx')).nodes b).1.keyShareComputer = none := by
  by_cases hb : b = a
  swap
  · rw [afterCall_nodes_of_ne hb]
    exact hinv.exclusive b
  subst hb
  rw [afterCall_nodes_self]
  change n'.coordinatorState = none ∨ n'.keyShareComputer = none
  cases hk : n'.keyShareComputer with
  | none => exact .inr rfl
  | some k =>
    cases hcs : n'.coordinatorState with
    | none => exact .inl rfl
    | some cs =>
      exfalso
      have hl := Node.call_leaves hc
      rcases hl.computing k hk with ⟨k₀, hk₀, -⟩ | ⟨hcall, hlce, hsurv⟩
      · cases hl.coordinator cs hcs with
        | continues hcs₀ _ => exact hinv.not_both hcs₀ hk₀
        | acks hcs₀ _ _ _ _ _ _ _ => exact hinv.not_both hcs₀ hk₀
        | jumps hcs₀ _ => exact hinv.not_both hcs₀ hk₀
        | reconfigures _ _ _ _ _ _ _ hksc _ =>
          rw [hksc] at hk
          cases hk
        | upgrades _ _ _ _ _ _ _ hksc _ _ =>
          rw [hksc] at hk
          cases hk
      · obtain ⟨hcs₀, hlt⟩ := hsurv cs hcs
        obtain ⟨l, hl', hle⟩ :=
          (hinv.coordinators b cs hcs₀).committed _ (callOk_commitsConfig hok hcall).2 hlt
        exact absurd (hlce l hl') (not_lt.mpr hle)

/-- What the node says after a call is true. -/
theorem Inv.msgOk_of_maySay (hinv : Inv P w) (hok : w.CallOk a c)
    (hc : Node.call P c (w.nodes a) = some (n', ctx')) {dest : ι} {k : PeerMsgKind ι}
    (hsay : Node.MaySay n' ctx'.persistentState dest k) :
    (w.afterCall a (n', ctx')).MsgOk a k := by
  have hr := hinv.reachable_call hc
  cases k with
  | prepareAck e =>
    show ((w.afterCall a (n', ctx')).nodes a).2.persistentState.hasPrepared e
    rw [afterCall_nodes_self]
    exact hsay
  | prepare g s =>
    -- a `Prepare` of the coordinator, which carries its saved configuration
    obtain ⟨cs, hcs, prepares, acks, hop, hlookup⟩ := hsay
    have hci := Node.coordInv_reachable hr cs hcs
    obtain ⟨hsaved, hcarry, -⟩ := hci.preparing prepares acks hop
    have hg : g = cs.configuration := hcarry dest (g, s) hlookup
    subst hg
    show (w.afterCall a (n', ctx')).allCoordinatedConfigs.lookup cs.configuration.epoch =
      some cs.configuration
    refine hinv.configs_afterCall hok hc a _ _ ?_
    rw [afterCall_nodes_self, hci.epoch]
    exact hsaved
  | commitAdvance g =>
    -- a `CommitAdvance` of a committed configuration
    obtain ⟨e, he, hg⟩ := hsay
    have hkey : g.epoch = e := (Node.inv_reachable hr).wf.keyed e g hg
    show (w.afterCall a (n', ctx')).allCoordinatedConfigs.lookup g.epoch = some g ∧
      (w.afterCall a (n', ctx')).nexus.IsCommitted g.epoch
    rw [hkey]
    exact ⟨hinv.configs_afterCall hok hc a e g (by rw [afterCall_nodes_self]; exact hg),
      hinv.commits_afterCall hok hc a e (by rw [afterCall_nodes_self]; exact he)⟩
  | getShare _ | share _ _ | getLrtqShare | lrtqShare _ | expunged _ => trivial

theorem Inv.bootstrap_afterCall (hinv : Inv P w) (hok : w.CallOk a c)
    (hc : Node.call P c (w.nodes a) = some (n', ctx')) (env : Envelope ι)
    (henv : env ∈ (w.afterCall a (n', ctx')).bootstrapNetwork) :
    (w.afterCall a (n', ctx')).MsgOk env.sender env.msg.kind := by
  rw [afterCall_bootstrapNetwork, List.mem_append] at henv
  rcases henv with hold | hnew
  · exact (hinv.bootstrap env hold).mono (grows_afterCall hc)
  · -- queued by the call, on an empty queue: what the node may say after it
    obtain ⟨l, hout, hsays⟩ := (Node.call_leaves hc).queues.outgoing
    rw [hinv.drained a, List.nil_append] at hout
    obtain ⟨hsender, hsay⟩ := hsays env (hout ▸ hnew)
    rw [hsender, hinv.platformId a]
    exact hinv.msgOk_of_maySay hok hc hsay

/-- **A call keeps the invariant**, if what it is handed is true. -/
theorem Inv.afterCall (hinv : Inv P w) (hok : w.CallOk a c)
    (hc : Node.call P c (w.nodes a) = some (n', ctx')) : Inv P (w.afterCall a (n', ctx')) where
  node := reachable_afterCall hc hinv.node
  platformId b := by
    by_cases hb : b = a
    · subst hb
      rw [afterCall_nodes_self]
      exact (Node.call_leaves hc).queues.platformId.trans (hinv.platformId b)
    · rw [afterCall_nodes_of_ne hb]
      exact hinv.platformId b
  drained b := by
    by_cases hb : b = a
    · subst hb
      rw [afterCall_nodes_self]
      rfl
    · rw [afterCall_nodes_of_ne hb]
      exact hinv.drained b
  ghost := hinv.ghost_afterCall hok hc
  configs := hinv.configs_afterCall hok hc
  coordinators := hinv.coordinators_afterCall hok hc
  commits := hinv.commits_afterCall hok hc
  computing := hinv.computing_afterCall hok hc
  exclusive := hinv.exclusive_afterCall hok hc
  prepared e nc h b hb := by
    rw [afterCall_nexus] at h
    exact ((grows_afterCall hc).ps b).hasPrepared (hinv.prepared e nc h b hb)
  bootstrap := hinv.bootstrap_afterCall hok hc
  underlay r hr := by
    rw [afterCall_underlayNetwork] at hr
    exact (hinv.underlay r hr).mono (grows_afterCall hc)

theorem Inv.runNode (hinv : Inv P w) {w' : World ι} (h : World.runNode P w a c = some w')
    (hok : w.CallOk a c) : Inv P w' := by
  obtain ⟨n', ctx', hc, rfl⟩ := runNode_eq_some h
  exact hinv.afterCall hok hc

end Call

/-! ## 4. Nexus, restarts and the networks -/

section Events

variable {w : World ι}

/-- **Nexus changing its configurations keeps the invariant**, if it undoes nothing, commits
    nothing before a coordinator's epoch that it had not committed, and counts as prepared only
    members that prepared. -/
theorem Inv.withNexus (hinv : Inv P w) {nexus : NexusState ι} (hn : w.nexus.Extends nexus)
    (hcommit : ∀ e, nexus.IsCommitted e → w.nexus.IsCommitted e ∨
      ∀ a cs, (w.nodes a).1.coordinatorState = some cs → cs.msg.epoch ≤ e)
    (hprep : ∀ e nc, nexus.configs.lookup e = some nc → ∀ b ∈ nc.preparedMembers,
      (w.nodes b).2.persistentState.hasPrepared e) :
    Inv P { w with nexus } where
  node := hinv.node
  platformId := hinv.platformId
  drained := hinv.drained
  ghost e g h := ⟨(hinv.ghost e g h).1.mono hn, (hinv.ghost e g h).2⟩
  configs := hinv.configs
  coordinators a cs hcs := (hinv.coordinators a cs hcs).mono (grows_withNexus hn)
    fun e he hlt => (hcommit e he).resolve_right fun hall => absurd (hall a cs hcs) (not_le.mpr hlt)
  commits a e he := hn.committed e (hinv.commits a e he)
  computing a k hk := hn.committed _ (hinv.computing a k hk)
  exclusive := hinv.exclusive
  prepared := hprep
  bootstrap env h := (hinv.bootstrap env h).mono (grows_withNexus hn)
  underlay r h := (hinv.underlay r h).mono (grows_withNexus hn)

/-- The networks changing keeps the invariant, if what they carry is true. -/
theorem Inv.withNetworks (hinv : Inv P w) {boot : List (Envelope ι)} {under : List (NexusReply ι)}
    (hboot : ∀ env ∈ boot, w.MsgOk env.sender env.msg.kind) (hunder : ∀ r ∈ under, w.ReplyOk r) :
    Inv P { w with bootstrapNetwork := boot, underlayNetwork := under } where
  node := hinv.node
  platformId := hinv.platformId
  drained := hinv.drained
  ghost := hinv.ghost
  configs := hinv.configs
  coordinators a cs h := (hinv.coordinators a cs h).mono
    ⟨fun _ => Extends.refl _, fun _ _ h => h, .refl _⟩ fun _ he _ => he
  commits := hinv.commits
  computing := hinv.computing
  exclusive := hinv.exclusive
  prepared := hinv.prepared
  bootstrap := hboot
  underlay := hunder

/-- Prepared members of a stored latest configuration that prepared, if the new ones did. -/
theorem Inv.prepared_store (hinv : Inv P w) {latest c : NexusConfig ι}
    (hl : w.nexus.latestConfig = some latest) (hepoch : c.epoch = latest.epoch)
    (hnew : ∀ b ∈ c.preparedMembers, b ∈ latest.preparedMembers ∨
      (w.nodes b).2.persistentState.hasPrepared latest.epoch) :
    ∀ e nc, (w.nexus.store c).configs.lookup e = some nc → ∀ b ∈ nc.preparedMembers,
      (w.nodes b).2.persistentState.hasPrepared e := by
  intro e nc hnc b hb
  rcases NexusState.store_lookup_eq_some hnc with ⟨rfl, rfl⟩ | ⟨-, hold⟩
  · rw [hepoch]
    rcases hnew b hb with hold | hprep
    · exact hinv.prepared _ _ (NexusState.latestConfig_eq_some hl).1 b hold
    · exact hprep
  · exact hinv.prepared e nc hold b hb

/-- Nexus storing its next configuration: nothing new committed, nobody prepared. -/
theorem Inv.storeNext (hinv : Inv P w) {c : NexusConfig ι} {nexus : NexusState ι}
    (hc : w.nexus.IsNextConfig c) (hins : w.nexus.insertUnique c = some nexus) :
    Inv P { w with nexus } ∧ ∀ e, nexus.IsCommitted e → w.nexus.IsCommitted e := by
  have hn := NexusState.Extends.insertUnique hins
  obtain ⟨-, rfl⟩ := NexusState.insertUnique_spec hins
  have hold : ∀ e, (w.nexus.store c).IsCommitted e → w.nexus.IsCommitted e :=
    fun e he => NexusState.isCommitted_of_store (by rw [hc.op]; decide) he
  refine ⟨hinv.withNexus hn (fun e he => .inl (hold e he)) fun e nc hnc b hb => ?_, hold⟩
  rcases NexusState.store_lookup_eq_some hnc with ⟨-, rfl⟩ | ⟨-, hnc'⟩
  · rw [hc.preparedMembers] at hb
    exact absurd hb (Finset.notMem_empty b)
  · exact hinv.prepared e nc hnc' b hb

/-- Nexus's next configuration is for an epoch nobody created yet. -/
theorem Inv.next_not_mem (hinv : Inv P w) {c : NexusConfig ι} {nexus : NexusState ι}
    (hins : w.nexus.insertUnique c = some nexus) : c.epoch ∉ w.allCoordinatedConfigs := by
  intro hmem
  obtain ⟨g, hg⟩ := Finmap.mem_iff.mp hmem
  obtain ⟨⟨nc, hnc, -⟩, -⟩ := hinv.ghost _ g hg
  exact (NexusState.insertUnique_spec hins).1 (Finmap.mem_of_lookup_eq_some hnc)

/-- **A `ReconfigureMsg` from Nexus is true**: its epoch is new and Nexus gave it to the
    coordinator, and it carries the last committed epoch. -/
theorem Inv.callOk_reconfigure (hinv : Inv P w) {c : NexusConfig ι} {nexus : NexusState ι}
    (hc : w.nexus.IsNextConfig c) (hins : w.nexus.insertUnique c = some nexus)
    (rnd : ConfigRandomness) :
    ({ w with nexus } : World ι).CallOk c.coordinator
      (.coordinateReconfiguration (c.toReconfigureMsg nexus.rackId) rnd) := by
  have hold := (hinv.storeNext hc hins).2
  have hfresh := hinv.next_not_mem hins
  obtain ⟨-, rfl⟩ := NexusState.insertUnique_spec hins
  refine ⟨⟨c, NexusState.store_lookup_self _ _, rfl⟩, hfresh, fun e he => ?_⟩
  obtain ⟨lc, hlc, hle⟩ := NexusState.le_lastCommitted (hold e he)
  refine ⟨lc.epoch, ?_, hle⟩
  show c.lastCommittedEpoch = some lc.epoch
  rw [hc.lastCommittedEpoch, hlc, Option.map_some]

/-- An `LrtqUpgradeMsg` from Nexus is true: before the upgrade nothing is committed. -/
theorem Inv.callOk_lrtqUpgrade (hinv : Inv P w) {c : NexusConfig ι} {nexus : NexusState ι}
    (hlrtq : w.nexus.needsUpgradeFromLrtq = true) (hc : w.nexus.IsNextConfig c)
    (hins : w.nexus.insertUnique c = some nexus) (rnd : ConfigRandomness) :
    ({ w with nexus } : World ι).CallOk c.coordinator
      (.coordinateUpgradeFromLrtq (c.toLrtqUpgradeMsg nexus.rackId) rnd) := by
  have hold := (hinv.storeNext hc hins).2
  have hfresh := hinv.next_not_mem hins
  obtain ⟨-, rfl⟩ := NexusState.insertUnique_spec hins
  exact ⟨⟨c, NexusState.store_lookup_self _ _, rfl⟩, hfresh,
    fun e he => NexusState.not_isCommitted_of_needsUpgradeFromLrtq hlrtq e (hold e he)⟩

theorem Inv.abortConfiguration (hinv : Inv P w) {latest : NexusConfig ι} {nexus : NexusState ι}
    (hl : w.nexus.latestConfig = some latest) (hop : latest.op = .preparing)
    (h : w.nexus.abortConfiguration latest.epoch = some nexus) : Inv P { w with nexus } := by
  have hn := NexusState.Extends.abortConfiguration h fun l hl' => by
    rw [hl, Option.some.injEq] at hl'
    rw [← hl', hop]
    decide
  obtain ⟨latest', hl', -, rfl⟩ := NexusState.abortConfiguration_spec h
  rw [hl, Option.some.injEq] at hl'
  subst hl'
  exact hinv.withNexus hn
    (fun e he => .inl (NexusState.isCommitted_of_store (fun h => by cases h) he))
    (hinv.prepared_store hl rfl fun b hb => .inl hb)

/-- Every coordinator's epoch is at most Nexus's latest. -/
theorem Inv.le_latest (hinv : Inv P w) {latest : NexusConfig ι}
    (hl : w.nexus.latestConfig = some latest) {a : ι} {cs : CoordinatorState ι}
    (hcs : (w.nodes a).1.coordinatorState = some cs) : cs.msg.epoch ≤ latest.epoch := by
  obtain ⟨nc, hnc, -⟩ := (hinv.coordinators a cs hcs).coordinatedBy
  exact (NexusState.latestConfig_eq_some hl).2 _ (Finmap.mem_of_lookup_eq_some hnc)

/-- **A reply delivered to Nexus keeps the invariant**: Nexus only commits its latest epoch,
    which no coordinator's exceeds, and counts as prepared only those the reply says are. -/
theorem Inv.deliverNexusReply (hinv : Inv P w) {reply : NexusReply ι} (hr : w.ReplyOk reply)
    {nexus : NexusState ι} (h : w.nexus.deliverNexusReply reply = some nexus) :
    Inv P { w with nexus } := by
  refine hinv.withNexus (NexusState.Extends.deliverNexusReply h) (fun e he => ?_) ?_
  · rcases NexusState.deliverNexusReply_isCommitted h he with hold | ⟨latest, hl, rfl⟩
    · exact .inl hold
    · exact .inr fun a cs hcs => hinv.le_latest hl hcs
  · rcases NexusState.deliverNexusReply_spec h with
      rfl | ⟨latest, latest', hl, rfl, hep, -, -, -, -, hnew⟩
    · exact hinv.prepared
    refine hinv.prepared_store hl hep fun b hb => ?_
    rcases hnew b hb with hold | ⟨acks, rfl, hacks⟩
    · exact .inl hold
    · exact .inr (hr b hacks)

/-- A poll answered by the coordinator of the latest configuration is true: once it saved the
    latest epoch's configuration, it prepares that epoch. -/
theorem Inv.replyOk_poll (hinv : Inv P w) {latest : NexusConfig ι} {cs : CoordinatorState ι}
    (hepoch : ((w.nodes latest.coordinator).2.persistentState.latestConfig.map (·.epoch)).getD 0 =
      latest.epoch)
    (hcs : (w.nodes latest.coordinator).1.coordinatorState = some cs) :
    w.ReplyOk (.ackedPreparesFromCoordinator latest.epoch cs.op.ackedPrepares) := by
  intro b hb
  cases hop : cs.op with
  | prepare prepares acks =>
    rw [hop] at hb
    have hci := Node.coordInv_reachable (hinv.node latest.coordinator) cs hcs
    obtain ⟨hsaved, -, -⟩ := hci.preparing prepares acks hop
    rw [← hci.epoch] at hsaved
    rw [latestConfig_eq_of_max hsaved (hci.epoch ▸ hci.latest), Option.map_some,
      Option.getD_some, hci.epoch] at hepoch
    rw [← hepoch]
    exact (hinv.coordinators _ cs hcs).acked prepares acks hop b hb
  | collectShares _ _ _ | collectLrtqShares _ _ =>
    rw [hop] at hb
    exact absurd hb (Finset.notMem_empty b)

/-- The configuration Nexus hands to `prepare_and_commit`: a prepared member's latest, which is
    the latest epoch's, recorded and committed. -/
theorem Inv.callOk_prepareAndCommit (hinv : Inv P w) {latest : NexusConfig ι}
    {config : Configuration ι} {p : ι} (a : ι) (hl : w.nexus.latestConfig = some latest)
    (hop : latest.op = .committed) (hp : p ∈ latest.preparedMembers)
    (hconfig : (w.nodes p).2.persistentState.latestConfig = some config) :
    w.CallOk a (.prepareAndCommit config) := by
  obtain ⟨hsaved, hmax⟩ := (Node.inv_reachable (hinv.node p)).wf.latestConfig_eq_some hconfig
  have hrec := hinv.configs p _ _ hsaved
  obtain ⟨hlatest, hle⟩ := NexusState.latestConfig_eq_some hl
  -- the member prepared the latest epoch, and no epoch beyond it exists
  have hge : latest.epoch ≤ config.epoch := hmax _ (hinv.prepared _ _ hlatest p hp).1
  obtain ⟨⟨nc, hnc, -⟩, -⟩ := hinv.ghost _ _ hrec
  have heq : config.epoch = latest.epoch :=
    le_antisymm (hle _ (Finmap.mem_of_lookup_eq_some hnc)) hge
  exact ⟨hrec, heq ▸ ⟨latest, hlatest, hop⟩⟩

/-- The ledgers survive a restart. -/
theorem restartNode_persistentState (w : World ι) (a b : ι) :
    ((w.restartNode a).nodes b).2.persistentState = (w.nodes b).2.persistentState := by
  by_cases hb : b = a
  · subst hb
    rw [restartNode_nodes_self]
    rfl
  · rw [restartNode_nodes_of_ne hb]

theorem grows_restartNode (w : World ι) (a : ι) : w.Grows (w.restartNode a) :=
  ⟨fun b => by rw [restartNode_persistentState], fun _ _ h => h, .refl _⟩

/-- **A restart keeps the invariant**: the node loses its roles and keeps its ledger. -/
theorem Inv.restartNode (hinv : Inv P w) (a : ι) : Inv P (w.restartNode a) where
  node b := by
    by_cases hb : b = a
    · subst hb
      rw [restartNode_nodes_self]
      exact (hinv.node b).step (.restart _ _)
    · rw [restartNode_nodes_of_ne hb]
      exact hinv.node b
  platformId b := by
    by_cases hb : b = a
    · subst hb
      rw [restartNode_nodes_self]
      exact hinv.platformId b
    · rw [restartNode_nodes_of_ne hb]
      exact hinv.platformId b
  drained b := by
    by_cases hb : b = a
    · subst hb
      rw [restartNode_nodes_self]
      rfl
    · rw [restartNode_nodes_of_ne hb]
      exact hinv.drained b
  ghost e g h := by
    rw [restartNode_persistentState]
    exact hinv.ghost e g h
  configs b := by
    rw [restartNode_persistentState]
    exact hinv.configs b
  coordinators b cs hcs := by
    by_cases hb : b = a
    · subst hb
      rw [restartNode_nodes_self] at hcs
      cases hcs
    · rw [restartNode_nodes_of_ne hb] at hcs
      exact (hinv.coordinators b cs hcs).mono (grows_restartNode w a) fun e he _ => he
  commits b := by
    rw [restartNode_persistentState]
    exact hinv.commits b
  computing b k hk := by
    by_cases hb : b = a
    · subst hb
      rw [restartNode_nodes_self] at hk
      cases hk
    · rw [restartNode_nodes_of_ne hb] at hk
      exact hinv.computing b k hk
  exclusive b := by
    by_cases hb : b = a
    · subst hb
      rw [restartNode_nodes_self]
      exact .inl rfl
    · rw [restartNode_nodes_of_ne hb]
      exact hinv.exclusive b
  prepared e nc h b := by
    rw [restartNode_persistentState]
    exact hinv.prepared e nc h b
  bootstrap env h := (hinv.bootstrap env h).mono (grows_restartNode w a)
  underlay r h := (hinv.underlay r h).mono (grows_restartNode w a)

end Events

/-! ## 5. Every reachable cluster -/

theorem inv_initial : Inv P (initial : World ι) where
  node a := .initial a none
  platformId _ := rfl
  drained _ := rfl
  ghost e g h := by simp [initial] at h
  configs a e g h := by simp [initial, Node.initial, Node.initialPersistentState,
    NodeCtx.newWithPersistentState, PersistentState.empty] at h
  coordinators a cs h := by simp [initial, Node.initial, Node.new] at h
  commits a e h := by simp [initial, Node.initial, Node.initialPersistentState,
    NodeCtx.newWithPersistentState, PersistentState.empty] at h
  computing a k h := by simp [initial, Node.initial, Node.new] at h
  exclusive _ := .inl rfl
  prepared e nc h := by simp [initial, NexusState.new] at h
  bootstrap env h := by simp [initial] at h
  underlay r h := by simp [initial] at h

theorem inv_initialLrtq (coordinator : ι) (members : Finset ι) (pkgs : ι → Option LrtqShareData) :
    Inv P (initialLrtq coordinator members pkgs) where
  node a := .initial a (pkgs a)
  platformId _ := rfl
  drained _ := rfl
  ghost e g h := by simp [initialLrtq] at h
  configs a e g h := by
    cases hp : pkgs a <;> simp [initialLrtq, Node.initial, Node.initialPersistentState,
      NodeCtx.newWithPersistentState, PersistentState.empty, PersistentState.newLrtqOnly, hp] at h
  coordinators a cs h := by simp [initialLrtq, Node.initial, Node.new] at h
  commits a e h := by
    cases hp : pkgs a <;> simp [initialLrtq, Node.initial, Node.initialPersistentState,
      NodeCtx.newWithPersistentState, PersistentState.empty, PersistentState.newLrtqOnly, hp] at h
  computing a k h := by simp [initialLrtq, Node.initial, Node.new] at h
  exclusive _ := .inl rfl
  -- the LRTQ configuration has nobody prepared
  prepared e nc h b hb := by
    rcases NexusState.store_lookup_eq_some h with ⟨-, rfl⟩ | ⟨-, hold⟩
    · simp [NexusConfig.newLrtq] at hb
    · simp [NexusState.new] at hold
  bootstrap env h := by simp [initialLrtq] at h
  underlay r h := by simp [initialLrtq] at h

/-- **One event keeps the invariant.** -/
theorem inv_step {w w' : World ι} (hinv : Inv P w) (hs : Step P w w') : Inv P w' := by
  cases hs with
  | @deliverEnvelope _ l₁ l₂ env salt hnet h =>
    have hmem : env ∈ w.bootstrapNetwork := by simp [hnet]
    have hrest : ∀ e ∈ l₁ ++ l₂, e ∈ w.bootstrapNetwork := by
      intro e he
      simp only [hnet, List.mem_append, List.mem_cons] at he ⊢
      tauto
    exact (hinv.withNetworks (fun e he => hinv.bootstrap e (hrest e he)) hinv.underlay).runNode h
      (hinv.bootstrap env hmem)
  | sledAgent a c hc h => exact hinv.runNode h (callOk_of_fromSledAgent hc)
  | restartNode a => exact hinv.restartNode a
  | reconfigure c rnd hlrtq hc hins h =>
    exact (hinv.storeNext hc hins).1.runNode h (hinv.callOk_reconfigure hc hins rnd)
  | lrtqUpgrade c rnd hlrtq hc hins h =>
    exact (hinv.storeNext hc hins).1.runNode h (hinv.callOk_lrtqUpgrade hlrtq hc hins rnd)
  | reconfigureCrashed c hc hins => exact (hinv.storeNext hc hins).1
  | abortConfiguration hl hop h => exact hinv.abortConfiguration hl hop h
  | sendNexusReplyOnUnderlay hl hop hepoch hcs =>
    refine hinv.withNetworks hinv.bootstrap fun r hr => ?_
    rcases List.mem_append.mp hr with hr | hr
    · exact hinv.underlay r hr
    · rw [List.mem_singleton.mp hr]
      exact hinv.replyOk_poll hepoch hcs
  | @deliverNexusReply l₁ l₂ nexus reply hnet h =>
    have hmem : reply ∈ w.underlayNetwork := by simp [hnet]
    have hg := grows_withNexus (w := w) (NexusState.Extends.deliverNexusReply h)
    have hrest : ∀ r ∈ l₁ ++ l₂, r ∈ w.underlayNetwork := by
      intro r hr
      simp only [hnet, List.mem_append, List.mem_cons] at hr ⊢
      tauto
    exact (hinv.deliverNexusReply (hinv.underlay reply hmem) h).withNetworks
      (fun env he => (hinv.bootstrap env he).mono hg)
      (fun r hr => (hinv.underlay r (hrest r hr)).mono hg)
  | @commitConfiguration _ latest a hl hop ha h =>
    have hinv' := hinv.runNode h ⟨_, (NexusState.latestConfig_eq_some hl).1, hop⟩
    refine hinv'.withNetworks hinv'.bootstrap fun r hr => ?_
    rcases List.mem_append.mp hr with hr | hr
    · exact hinv'.underlay r hr
    · rw [List.mem_singleton.mp hr]
      trivial
  | prepareAndCommit a p hl hop hp hconfig h =>
    exact hinv.runNode h (hinv.callOk_prepareAndCommit a hl hop hp hconfig)

/-- **Every reachable cluster satisfies the invariant.** -/
theorem inv_reachable {w : World ι} (hw : Reachable P w) : Inv P w := by
  induction hw with
  | initial => exact inv_initial
  | initialLrtq coordinator members pkgs => exact inv_initialLrtq coordinator members pkgs
  | step _ hs ih => exact inv_step ih hs

end World

end Omicron.TrustQuorum
