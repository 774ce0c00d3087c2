import Omicron.TrustQuorum.NodeSpec
import Mathlib.Logic.Relation

/-!
# Trust quorum: runs of one node

A node on its own, driven by anything: every entry point of its API called with any arguments --
any message from any sender, any request from Nexus or from the sled agent --, a crash and
restart over the same persistent state (`apply_event_restart_node` of the test harness), and its
queue handed to the network. A run of a cluster is a run of each of its nodes in this sense, so
what is proved here holds in every cluster.

* `Step`, `Reachable` -- the steps, and the states reached from a fresh persistent state
  (`PersistentState::empty`, or `new_lrtq_only` on a rack that ran LRTQ);
* `Inv` -- a well-formed ledger, a key share computed only for a saved configuration, no role
  once expunged: `inv_initial`, `inv_step`, `inv_reachable`, one lemma per entry point between;
* `commits_hasPrepared` -- commits are prepared, so the `expect`s on the latest commit never
  fire;
* `expunged_persistentState_fixed` -- from an expunged state no run writes the ledger or starts
  a role.
-/

set_option linter.unusedSectionVars false

namespace Omicron.TrustQuorum

open Omicron.Gfss NodeCtx PersistentState

namespace Node

variable {ι : Type} [LinearOrder ι] {P : Primitives}

/-! ## 1. Steps and reachable states -/

variable (P) in
/-- A step of one node: a call, a crash and restart -- a new `Node` over the context with its
    mutable state cleared --, or the queued envelopes handed to the network. -/
inductive Step : Node ι × NodeCtx ι → Node ι × NodeCtx ι → Prop
  | call {s s' : Node ι × NodeCtx ι} (c : Call ι) (h : call P c s = some s') : Step s s'
  | restart (n : Node ι) (ctx : NodeCtx ι) : Step (n, ctx) (Node.new, ctx.clearMutableState)
  | drain (n : Node ι) (ctx : NodeCtx ι) : Step (n, ctx) (n, ctx.drainEnvelopes.2)

/-- The persistent state a node starts with. -/
def initialPersistentState : Option LrtqShareData → PersistentState ι
  | none => .empty
  | some d => .newLrtqOnly d

/-- A node's first state: no role, and a fresh persistent state. -/
def initial (platformId : ι) (lrtq : Option LrtqShareData) : Node ι × NodeCtx ι :=
  (Node.new, NodeCtx.newWithPersistentState platformId (initialPersistentState lrtq))

variable (P) in
/-- The states a node reaches. -/
inductive Reachable : Node ι × NodeCtx ι → Prop
  | initial (platformId : ι) (lrtq : Option LrtqShareData) : Reachable (initial platformId lrtq)
  | step {s s' : Node ι × NodeCtx ι} (hs : Reachable s) (h : Step P s s') : Reachable s'

theorem Reachable.of_run {s s' : Node ι × NodeCtx ι} (hs : Reachable P s)
    (hrun : Relation.ReflTransGen (Step P) s s') : Reachable P s' := by
  induction hrun with
  | refl => exact hs
  | tail _ hstep ih => exact ih.step hstep

/-- A call that does not panic is a step. -/
theorem Step.of_isSome {s : Node ι × NodeCtx ι} (c : Call ι) (h : (Node.call P c s).isSome) :
    Step P s ((Node.call P c s).getD s) := by
  obtain ⟨s', hs'⟩ := Option.isSome_iff_exists.mp h
  exact .call c (by rw [hs', Option.getD_some])

/-- The node and context after a call whose result is dropped. -/
theorem eq_of_map_snd {α : Type} {x : Option (α × Node ι × NodeCtx ι)}
    {s' : Node ι × NodeCtx ι} (h : x.map (·.2) = some s') : ∃ r, x = some (r, s'.1, s'.2) := by
  obtain ⟨⟨r, n', ctx'⟩, hx, rfl⟩ := Option.map_eq_some_iff.mp h
  exact ⟨r, hx⟩

/-! ## 2. The invariant -/

/-- What every reachable state of a node satisfies. -/
structure Inv (s : Node ι × NodeCtx ι) : Prop where
  /-- The ledger is well formed. -/
  wf : s.2.persistentState.Wf
  /-- A key share is computed only for a saved configuration. -/
  computing : ∀ k, s.1.keyShareComputer = some k →
    s.2.persistentState.configs.lookup k.config.epoch = some k.config
  /-- An expunged node has no role. -/
  expunged : s.2.persistentState.expunged.isSome →
    s.1.coordinatorState = none ∧ s.1.keyShareComputer = none

namespace Inv

variable {n n' : Node ι} {ctx ctx' : NodeCtx ι}

/-- The invariant after a step that extends a well-formed ledger; keeps the configuration of
    the key share computer or starts one for a saved configuration; and leaves an expunged node
    without roles. -/
theorem next (h : Inv (n, ctx)) (hwf : ctx'.persistentState.Wf)
    (hext : ctx.persistentState.Extends ctx'.persistentState)
    (hk : ∀ k', n'.keyShareComputer = some k' →
      (∃ k, n.keyShareComputer = some k ∧ k'.config = k.config) ∨
        ctx'.persistentState.configs.lookup k'.config.epoch = some k'.config)
    (hexp : ctx'.persistentState.expunged.isSome →
      n'.coordinatorState = none ∧ n'.keyShareComputer = none) :
    Inv (n', ctx') := by
  refine ⟨hwf, fun k' hk' => ?_, hexp⟩
  rcases hk k' hk' with ⟨k, hk₀, he⟩ | hsaved
  · rw [he]
    exact hext.configs _ _ (h.computing k hk₀)
  · exact hsaved

/-- The invariant after a step that writes nothing. -/
theorem of_persistentState_eq (h : Inv (n, ctx))
    (hps : ctx'.persistentState = ctx.persistentState)
    (hk : ∀ k', n'.keyShareComputer = some k' →
      ∃ k, n.keyShareComputer = some k ∧ k'.config = k.config)
    (hexp : ctx.persistentState.expunged.isSome →
      n'.coordinatorState = none ∧ n'.keyShareComputer = none) :
    Inv (n', ctx') := by
  refine h.next (by rw [hps]; exact h.wf) (by rw [hps]) (fun k' hk' => .inl (hk k' hk')) ?_
  rw [hps]
  exact hexp

/-- The invariant after a step of a node in service that writes nothing and keeps its key share
    computer. -/
theorem of_inService (h : Inv (n, ctx)) (hnone : ctx.persistentState.expunged = none)
    (hps : ctx'.persistentState = ctx.persistentState)
    (hk : n'.keyShareComputer = n.keyShareComputer) : Inv (n', ctx') :=
  h.of_persistentState_eq hps (fun k' hk' => ⟨k', hk ▸ hk', rfl⟩) (by simp [hnone])

/-- A coordinator's jump to preparing saves the configuration of a fresh epoch, with our
    share. -/
theorem of_jumps {cs cs' : CoordinatorState ι} (h : Inv (n, ctx))
    (hj : CoordinatorState.Jumps cs cs' ctx ctx') (hnone : ctx.persistentState.expunged = none)
    (hk : n'.keyShareComputer = n.keyShareComputer) : Inv (n', ctx') := by
  obtain ⟨share, hps⟩ := hj.ps
  have hfresh : cs'.configuration.epoch ∉ ctx.persistentState.configs := by
    rw [hj.configuration]
    exact hj.fresh
  refine h.next (by rw [hps]; exact h.wf.saveConfigAndShare hfresh share)
    (by rw [hps]; exact extends_saveConfigAndShare share hfresh)
    (fun k' hk' => .inl ⟨k', hk ▸ hk', rfl⟩) ?_
  rw [hps]
  simp [hnone]

end Inv

theorem inv_initial (platformId : ι) (lrtq : Option LrtqShareData) :
    Inv (initial platformId lrtq) := by
  refine ⟨?_, fun k hk => (by cases hk), fun _ => ⟨rfl, rfl⟩⟩
  cases lrtq with
  | none => exact Wf.empty
  | some d => exact Wf.newLrtqOnly d

/-! ## 3. Each entry point keeps the invariant -/

/-- A configuration committed elsewhere is committed, saved, or only seen; a new key share
    computer is for that configuration, which is then saved. -/
theorem inv_handleCommitAdvance {n n' : Node ι} {ctx ctx' : NodeCtx ι} {src : CommitSource ι}
    {config : Configuration ι} (h : Inv (n, ctx)) (hnone : ctx.persistentState.expunged = none)
    (hc : n.handleCommitAdvance ctx src config = some (n', ctx')) : Inv (n', ctx') := by
  rcases handleCommitAdvance_spec hc with ⟨rfl, hps, -, -⟩ | ⟨-, -, ctx₁, b, hadv, hcases⟩
  · exact h.of_inService hnone hps rfl
  obtain ⟨-, -, hk, hs, -⟩ := advanceRoles_spec hadv
  have hps : ctx'.persistentState = ctx₁.persistentState := hs.persistentState
  -- the ledger after the write, and where `config` is saved when a computation starts
  have hwrite : ctx₁.persistentState.Wf ∧ ctx.persistentState.Extends ctx₁.persistentState ∧
      ctx₁.persistentState.expunged = ctx.persistentState.expunged ∧
      (b = false → ctx₁.persistentState.configs.lookup config.epoch = some config) := by
    rcases hcases with ⟨rfl, hprep, rfl⟩ | ⟨rfl, hsaved, rfl⟩ | ⟨rfl, hfresh, rfl⟩
    · exact ⟨h.wf.commit hprep, extends_commit _ _, rfl, by simp⟩
    · exact ⟨h.wf, Extends.refl _, rfl, fun _ => hsaved⟩
    · exact ⟨h.wf.saveConfig hfresh, extends_saveConfig hfresh, rfl, fun _ => by simp⟩
  obtain ⟨hwf, hext, hexp, hsaved⟩ := hwrite
  refine h.next (by rw [hps]; exact hwf) (by rw [hps]; exact hext) (fun k' hk' => ?_) ?_
  · rcases hk k' hk' with hold | ⟨hconf, hb⟩
    · exact .inl ⟨k', hold, rfl⟩
    · rw [hps, hconf]
      exact .inr (hsaved hb)
  · rw [hps, hexp, hnone]
    simp

theorem inv_handle {n n' : Node ι} {ctx ctx' : NodeCtx ι} {sender : ι} {msg : PeerMsg ι}
    {salt : Salt} (h : Inv (n, ctx)) (hc : n.handle P ctx sender msg salt = some (n', ctx')) :
    Inv (n', ctx') := by
  unfold handle at hc
  split_ifs at hc with hexp hrack
  -- an expunged node, and a message for another rack, change nothing
  all_goals first
    | (obtain ⟨rfl, rfl⟩ := eq_of_some_eq hc
       exact h)
    | skip
  have hnone : ctx.persistentState.expunged = none := by
    simpa [PersistentState.isExpunged] using hexp
  split at hc
  · -- `PrepareAck`
    obtain ⟨rfl, rfl⟩ := eq_of_some_eq hc
    exact h.of_inService hnone rfl (handlePrepareAck_spec n sender _).1
  · -- `Prepare`
    rcases handlePrepare_spec hc with ⟨rfl, rfl⟩ | ⟨-, -, hps, hk, -, -, -⟩
    · exact h
    refine h.next (by rw [hps]; exact h.wf.savePrepare _ _)
      (by rw [hps]; exact extends_savePrepare _ _ _) (fun k' hk' => .inl ⟨k', hk ▸ hk', rfl⟩) ?_
    rw [hps]
    simp [hnone]
  · -- `GetShare`
    obtain ⟨rfl, hs, -⟩ := handleGetShare_spec hc
    exact h.of_inService hnone hs.persistentState rfl
  · -- `Share`: to the coordinator, or to the key share computer
    rcases handleShare_spec hc with ⟨cs, cs', -, -, hk, hcont | hj⟩ | ⟨-, -, hk, -, -, hps⟩
    · exact h.of_inService hnone hcont.2.1 hk
    · exact h.of_jumps hj hnone hk
    rcases hps with hps | ⟨k, s, hk₀, rfl, hps⟩
    · exact h.of_persistentState_eq hps hk (by simp [hnone])
    have hmem : k.config.epoch ∈ ctx.persistentState.configs :=
      Finmap.mem_iff.mpr ⟨k.config, h.computing k hk₀⟩
    refine h.next (by rw [hps]; exact h.wf.saveShareAndCommit hmem s)
      (by rw [hps]; exact extends_saveShareAndCommit _ _ _)
      (fun k' hk' => .inl (hk k' hk')) ?_
    rw [hps]
    simp [hnone]
  · -- `CommitAdvance`
    exact inv_handleCommitAdvance h hnone hc
  · -- `Expunged`: recorded, and both roles stop
    rcases handleExpunged_spec n ctx sender _ with he | ⟨-, -, -, he⟩
    · rw [he] at hc
      obtain ⟨rfl, rfl⟩ := eq_of_some_eq hc
      exact h
    rw [he] at hc
    obtain ⟨rfl, rfl⟩ := eq_of_some_eq hc
    exact h.next (h.wf.expunge _) (extends_expunge _ hnone) (fun k' hk' => by cases hk')
      (fun _ => ⟨rfl, rfl⟩)
  · -- `GetLrtqShare`
    obtain ⟨rfl, hs, -⟩ := handleGetLrtqShare_spec hc
    exact h.of_inService hnone hs.persistentState rfl
  · -- `LrtqShare`: to the coordinator
    rcases handleLrtqShare_spec hc with ⟨-, rfl, rfl⟩ | ⟨cs, cs', -, rfl, ⟨-, rfl⟩ | hj⟩
    · exact h
    · exact h.of_inService hnone rfl rfl
    · exact h.of_jumps hj hnone rfl

theorem inv_commitConfiguration {n n' : Node ι} {ctx ctx' : NodeCtx ι} {rackId : RackUuid}
    {epoch : Nat} {r : Except (CommitError ι) Unit} (h : Inv (n, ctx))
    (hc : n.commitConfiguration ctx rackId epoch = some (r, n', ctx')) : Inv (n', ctx') := by
  rcases commitConfiguration_spec hc with ⟨rfl, rfl⟩ | ⟨hnone, hprep, rfl, rfl⟩
  · exact h
  refine h.next (h.wf.commit hprep) (extends_commit _ _)
    (fun k' hk' => .inl ⟨k', by simpa using hk', rfl⟩) ?_
  simp [hnone]

theorem inv_prepareAndCommit {n n' : Node ι} {ctx ctx' : NodeCtx ι} {config : Configuration ι}
    {r : Except (PrepareAndCommitError ι) Unit} (h : Inv (n, ctx))
    (hc : n.prepareAndCommit ctx config = some (r, n', ctx')) : Inv (n', ctx') := by
  rcases prepareAndCommit_spec hc with ⟨rfl, rfl⟩ | ⟨hnone, hadv⟩
  · exact h
  · exact inv_handleCommitAdvance h hnone hadv

theorem inv_coordinateReconfiguration {n n' : Node ι} {ctx ctx' : NodeCtx ι}
    {msg : ReconfigureMsg ι} {rnd : ConfigRandomness} {r : Except (ReconfigurationError ι) Unit}
    (h : Inv (n, ctx)) (hc : n.coordinateReconfiguration P ctx msg rnd = some (r, n', ctx')) :
    Inv (n', ctx') := by
  rcases coordinateReconfiguration_spec hc with ⟨rfl, rfl⟩ | ⟨v, last, hv, hstart⟩
  · exact h
  have hnone : ctx.persistentState.expunged = none :=
    (ValidatedReconfigureMsg.new_spec hv).2.2.1
  rcases hstart with ⟨rfl, rfl⟩ | ⟨cs, ctx₁, rfl, hsend, hcs⟩
  · exact h.of_persistentState_eq rfl (fun k' hk' => by cases hk') (by simp [hnone])
  have hps : ctx'.persistentState = ctx₁.persistentState :=
    (CoordinatorState.sendMsgs_spec hsend).1.persistentState
  rcases hcs with ⟨config, share, -, hfresh, rfl⟩ | ⟨-, -, -, -, rfl⟩
  · refine h.next (by rw [hps]; exact h.wf.saveConfigAndShare hfresh share)
      (by rw [hps]; exact extends_saveConfigAndShare share hfresh) (fun k' hk' => (by cases hk')) ?_
    rw [hps]
    simp [hnone]
  · exact h.of_persistentState_eq hps (fun k' hk' => by cases hk') (by simp [hnone])

theorem inv_coordinateUpgradeFromLrtq {n n' : Node ι} {ctx ctx' : NodeCtx ι}
    {msg : LrtqUpgradeMsg ι} {rnd : ConfigRandomness} {r : Except (LrtqUpgradeError ι) Unit}
    (h : Inv (n, ctx)) (hc : n.coordinateUpgradeFromLrtq P ctx msg rnd = some (r, n', ctx')) :
    Inv (n', ctx') := by
  rcases coordinateUpgradeFromLrtq_spec hc with ⟨rfl, rfl⟩ | ⟨v, hv, hstart⟩
  · exact h
  have hnone : ctx.persistentState.expunged = none := (ValidatedLrtqUpgradeMsg.new_spec hv).2.2.1
  rcases hstart with ⟨rfl, rfl⟩ | ⟨cs, -, rfl, hsend⟩
  · exact h.of_persistentState_eq rfl (fun k' hk' => by cases hk') (by simp [hnone])
  · exact h.of_persistentState_eq (CoordinatorState.sendMsgs_spec hsend).1.persistentState
      (fun k' hk' => by cases hk') (by simp [hnone])

/-- **One step keeps the invariant.** -/
theorem inv_step {s s' : Node ι × NodeCtx ι} (h : Inv s) (hs : Step P s s') : Inv s' := by
  cases hs with
  | call c hc =>
    obtain ⟨n, ctx⟩ := s
    cases c with
    | handle sender msg salt => exact inv_handle h hc
    | commitConfiguration rackId epoch =>
      obtain ⟨r, hr⟩ := eq_of_map_snd hc
      exact inv_commitConfiguration h hr
    | prepareAndCommit config =>
      obtain ⟨r, hr⟩ := eq_of_map_snd hc
      exact inv_prepareAndCommit h hr
    | coordinateReconfiguration msg rnd =>
      obtain ⟨r, hr⟩ := eq_of_map_snd hc
      exact inv_coordinateReconfiguration h hr
    | coordinateUpgradeFromLrtq msg rnd =>
      obtain ⟨r, hr⟩ := eq_of_map_snd hc
      exact inv_coordinateUpgradeFromLrtq h hr
    | onConnect peer =>
      obtain ⟨rfl, hps, -⟩ := onConnect_spec hc
      exact h.of_persistentState_eq hps (fun k' hk' => ⟨k', hk', rfl⟩) h.expunged
    | onDisconnect peer =>
      cases hc
      exact h.of_persistentState_eq rfl (fun k' hk' => ⟨k', hk', rfl⟩) h.expunged
    | loadRackSecret epoch =>
      obtain ⟨r, hr⟩ := eq_of_map_snd hc
      obtain ⟨hcs, hk, hps, -⟩ := loadRackSecret_spec hr
      refine h.of_persistentState_eq hps (fun k' hk' => ⟨k', hk ▸ hk', rfl⟩) ?_
      rw [hcs, hk]
      exact h.expunged
    | clearSecrets =>
      cases hc
      exact h.of_persistentState_eq rfl (fun k' hk' => ⟨k', hk', rfl⟩) h.expunged
  | restart n ctx =>
    exact h.of_persistentState_eq rfl (fun k' hk' => by cases hk') (fun _ => ⟨rfl, rfl⟩)
  | drain n ctx =>
    exact h.of_persistentState_eq rfl (fun k' hk' => ⟨k', hk', rfl⟩) h.expunged

/-- **Every reachable state satisfies the invariant.** -/
theorem inv_reachable {s : Node ι × NodeCtx ι} (hs : Reachable P s) : Inv s := by
  induction hs with
  | initial platformId lrtq => exact inv_initial platformId lrtq
  | step _ hstep ih => exact inv_step ih hstep

/-! ## 4. Commits are prepared -/

/-- Primitives that compute nothing, for runs that never split, encrypt or check a share. -/
def inertPrimitives : Primitives :=
  ⟨fun _ => [], fun _ _ _ => [], fun _ _ _ => none, fun _ _ _ => none, fun _ => none⟩

/-- A configuration of epoch 1 whose one member is node `0`. -/
def soloConfig : Configuration Nat := ⟨[], 1, 0, Finmap.singleton 0 [], 1, none⟩

/-- Node `0` after a `Prepare` of `soloConfig` from node `1`. -/
def soloPrepared : Node Nat × NodeCtx Nat :=
  (call inertPrimitives (.handle 1 ⟨[], .prepare soloConfig ⟨0, []⟩⟩ []) (initial 0 none)).getD
    (initial 0 none)

/-- `soloPrepared` after Nexus commits epoch 1. -/
def soloCommitted : Node Nat × NodeCtx Nat :=
  (call inertPrimitives (.commitConfiguration [] 1) soloPrepared).getD soloPrepared

theorem soloCommitted_reachable : Reachable inertPrimitives soloCommitted :=
  ((Reachable.initial 0 none).step (Step.of_isSome _ rfl)).step (Step.of_isSome _ rfl)

/-- **Commit implies prepared.** In every reachable state of a node, each committed epoch has its
    configuration and our share of it saved; so `latest_committed_configuration`,
    `latest_committed_config_and_share` and `ShareCollector::new` never reach their
    `expect`s. -/
theorem commits_hasPrepared {s : Node ι × NodeCtx ι} (hs : Reachable P s) :
    (∀ e ∈ s.2.persistentState.commits, s.2.persistentState.hasPrepared e) ∧
    s.2.persistentState.latestCommittedConfiguration.isSome ∧
    s.2.persistentState.latestCommittedConfigAndShare.isSome ∧
    (ShareCollector.new s.2).isSome := by
  have hwf := (inv_reachable hs).wf
  exact ⟨hwf.committed, hwf.latestCommittedConfiguration_isSome,
    hwf.latestCommittedConfigAndShare_isSome, ShareCollector.new_isSome hwf⟩

theorem commits_hasPrepared_solo :
    1 ∈ soloCommitted.2.persistentState.commits ∧
    ((∀ e ∈ soloCommitted.2.persistentState.commits,
        soloCommitted.2.persistentState.hasPrepared e) ∧
      soloCommitted.2.persistentState.latestCommittedConfiguration.isSome ∧
      soloCommitted.2.persistentState.latestCommittedConfigAndShare.isSome ∧
      (ShareCollector.new soloCommitted.2).isSome) :=
  ⟨by decide, commits_hasPrepared soloCommitted_reachable⟩

/-! ## 5. Expungement is final -/

/-- One step of an expunged node writes nothing and starts no role: a message is dropped, Nexus
    is refused, and the other calls only touch the connections, the queue and the loader. -/
theorem step_of_expunged {s s' : Node ι × NodeCtx ι} (h : Inv s)
    (hexp : s.2.persistentState.expunged.isSome) (hs : Step P s s') :
    s'.2.persistentState = s.2.persistentState ∧ s'.1.coordinatorState = none ∧
      s'.1.keyShareComputer = none := by
  obtain ⟨hcs, hk⟩ := h.expunged hexp
  -- every branch that runs on a node in service is out of reach
  have hout : ∀ {α : Prop}, s.2.persistentState.expunged = none → α := fun hn => by
    simp [hn] at hexp
  cases hs with
  | call c hc =>
    obtain ⟨n, ctx⟩ := s
    obtain ⟨n', ctx'⟩ := s'
    cases c with
    | handle sender msg salt =>
      have hdrop : n.handle P ctx sender msg salt = some (n, ctx) := by
        simp only [handle, PersistentState.isExpunged, hexp, if_true]
      change n.handle P ctx sender msg salt = some (n', ctx') at hc
      rw [hdrop] at hc
      obtain ⟨rfl, rfl⟩ := eq_of_some_eq hc
      exact ⟨rfl, hcs, hk⟩
    | commitConfiguration rackId epoch =>
      obtain ⟨r, hr⟩ := eq_of_map_snd hc
      rcases commitConfiguration_spec hr with ⟨rfl, rfl⟩ | ⟨hn, -⟩
      · exact ⟨rfl, hcs, hk⟩
      · exact hout hn
    | prepareAndCommit config =>
      obtain ⟨r, hr⟩ := eq_of_map_snd hc
      rcases prepareAndCommit_spec hr with ⟨rfl, rfl⟩ | ⟨hn, -⟩
      · exact ⟨rfl, hcs, hk⟩
      · exact hout hn
    | coordinateReconfiguration msg rnd =>
      obtain ⟨r, hr⟩ := eq_of_map_snd hc
      rcases coordinateReconfiguration_spec hr with ⟨rfl, rfl⟩ | ⟨v, last, hv, -⟩
      · exact ⟨rfl, hcs, hk⟩
      · exact hout (ValidatedReconfigureMsg.new_spec hv).2.2.1
    | coordinateUpgradeFromLrtq msg rnd =>
      obtain ⟨r, hr⟩ := eq_of_map_snd hc
      rcases coordinateUpgradeFromLrtq_spec hr with ⟨rfl, rfl⟩ | ⟨v, hv, -⟩
      · exact ⟨rfl, hcs, hk⟩
      · exact hout (ValidatedLrtqUpgradeMsg.new_spec hv).2.2.1
    | onConnect peer =>
      obtain ⟨rfl, hps, -⟩ := onConnect_spec hc
      exact ⟨hps, hcs, hk⟩
    | onDisconnect peer =>
      cases hc
      exact ⟨rfl, hcs, hk⟩
    | loadRackSecret epoch =>
      obtain ⟨r, hr⟩ := eq_of_map_snd hc
      obtain ⟨hcs', hk', hps, -⟩ := loadRackSecret_spec hr
      exact ⟨hps, hcs'.trans hcs, hk'.trans hk⟩
    | clearSecrets =>
      cases hc
      exact ⟨rfl, hcs, hk⟩
  | restart n ctx => exact ⟨rfl, rfl, rfl⟩
  | drain n ctx => exact ⟨rfl, hcs, hk⟩

/-- `soloPrepared` after node `1` reports that node `0` is expunged at epoch 1. -/
def soloExpunged : Node Nat × NodeCtx Nat :=
  (call inertPrimitives (.handle 1 ⟨[], .expunged 1⟩ []) soloPrepared).getD soloPrepared

theorem soloExpunged_reachable : Reachable inertPrimitives soloExpunged :=
  ((Reachable.initial 0 none).step (Step.of_isSome _ rfl)).step (Step.of_isSome _ rfl)

/-- **Expungement is final.** From a reachable state of an expunged node, every run -- of any
    calls, restarts and deliveries -- leaves the persistent state exactly as it is, expungement
    included, and the node never again coordinates or computes a key share. -/
theorem expunged_persistentState_fixed {s s' : Node ι × NodeCtx ι} (hs : Reachable P s)
    {m : ExpungedMetadata ι} (hm : s.2.persistentState.expunged = some m)
    (hrun : Relation.ReflTransGen (Step P) s s') :
    s'.2.persistentState = s.2.persistentState ∧ s'.1.coordinatorState = none ∧
      s'.1.keyShareComputer = none := by
  have hexp : s.2.persistentState.expunged.isSome := by simp [hm]
  -- induction on the run, carrying the invariant of each state it passes
  induction hrun with
  | refl => exact ⟨rfl, (inv_reachable hs).expunged hexp⟩
  | tail hrun' hstep ih =>
    obtain ⟨hps, -, -⟩ := ih
    have hinv := inv_reachable (hs.of_run hrun')
    obtain ⟨hps', hcs, hk⟩ := step_of_expunged hinv (by rw [hps]; exact hexp) hstep
    exact ⟨hps'.trans hps, hcs, hk⟩

/-- `soloExpunged` after Nexus asks it to commit `soloConfig`. -/
def soloAskedToCommit : Node Nat × NodeCtx Nat :=
  (call inertPrimitives (.prepareAndCommit soloConfig) soloExpunged).getD soloExpunged

theorem expunged_persistentState_fixed_solo :
    soloExpunged.2.persistentState.expunged = some ⟨1, 1⟩ ∧
    (soloAskedToCommit.2.persistentState = soloExpunged.2.persistentState ∧
      soloAskedToCommit.1.coordinatorState = none ∧
      soloAskedToCommit.1.keyShareComputer = none) :=
  ⟨by decide, expunged_persistentState_fixed soloExpunged_reachable
    (show soloExpunged.2.persistentState.expunged = some ⟨1, 1⟩ by decide)
    (.single (Step.of_isSome _ rfl))⟩

end Node

end Omicron.TrustQuorum
