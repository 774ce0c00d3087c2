import Omicron.TrustQuorum.Validators

/-!
# Trust quorum: the context a node runs in

`node_ctx.rs`: a `Node` reads and writes the world only through its `NodeCtx` -- its own id, its
persistent state, the outgoing envelopes, the connected peers and the raised alarms.

* `send` -- stamps the message with the node's rack id, which must exist (`expect("rack id
  exists")`, `none` here when it does not); `sendAll` is the source's `for to in destinations`;
* `updatePersistentState`, `raiseAlarm`, `addConnection`, `removeConnection`,
  `drainEnvelopes`, `clearMutableState`.

The `persistent_state_changed` bit is a testing aid no modelled function reads.

`SendsOnly` says a call only queued envelopes; `Queues ctx ctx' Q` says the context is the same
node's and every envelope queued satisfies `Q` -- what a call says, whatever else it changes.
The `@[simp]` lemmas give, for each operation, which fields it leaves alone.
-/

set_option linter.unusedSectionVars false

namespace Omicron.TrustQuorum

open Omicron.Gfss

/-- `NodeCtx`. -/
structure NodeCtx (ι : Type) where
  platformId : ι
  persistentState : PersistentState ι
  outgoing : List (Envelope ι)
  connected : Finset ι
  alarms : List (Alarm ι)

namespace NodeCtx

variable {ι : Type} [LinearOrder ι]

/-- `NodeCtx::new_with_persistent_state`: a fresh context over a ledger read from disk. -/
def newWithPersistentState (platformId : ι) (ps : PersistentState ι) : NodeCtx ι :=
  ⟨platformId, ps, [], ∅, []⟩

/-- `NodeCtx::send`: queue the message, stamped with the rack id of the persistent state. -/
def send (ctx : NodeCtx ι) (dest : ι) (kind : PeerMsgKind ι) : Option (NodeCtx ι) :=
  ctx.persistentState.rackId.map fun rackId =>
    { ctx with outgoing := ctx.outgoing ++ [⟨dest, ctx.platformId, ⟨rackId, kind⟩⟩] }

/-- `for to in destinations { ctx.send(to, kind) }`. -/
def sendAll (ctx : NodeCtx ι) (dests : List ι) (kind : PeerMsgKind ι) : Option (NodeCtx ι) :=
  dests.foldlM (fun c d => c.send d kind) ctx

/-- `NodeCtx::update_persistent_state`. -/
def updatePersistentState (ctx : NodeCtx ι) (f : PersistentState ι → PersistentState ι) :
    NodeCtx ι :=
  { ctx with persistentState := f ctx.persistentState }

/-- `NodeCtx::raise_alarm`. -/
def raiseAlarm (ctx : NodeCtx ι) (alarm : Alarm ι) : NodeCtx ι :=
  { ctx with alarms := ctx.alarms ++ [alarm] }

/-- `NodeCtx::add_connection`. -/
def addConnection (ctx : NodeCtx ι) (id : ι) : NodeCtx ι :=
  { ctx with connected := insert id ctx.connected }

/-- `NodeCtx::remove_connection`. -/
def removeConnection (ctx : NodeCtx ι) (id : ι) : NodeCtx ι :=
  { ctx with connected := ctx.connected.erase id }

/-- `NodeCtx::drain_envelopes`: the queued envelopes, handed to the network. -/
def drainEnvelopes (ctx : NodeCtx ι) : List (Envelope ι) × NodeCtx ι :=
  (ctx.outgoing, { ctx with outgoing := [] })

/-- `NodeCtx::clear_mutable_state`: what a restart loses; the persistent state stays. -/
def clearMutableState (ctx : NodeCtx ι) : NodeCtx ι :=
  { ctx with outgoing := [], connected := ∅, alarms := [] }

/-- What a send leaves alone: everything but the outgoing queue. -/
structure SendsOnly (ctx ctx' : NodeCtx ι) : Prop where
  platformId : ctx'.platformId = ctx.platformId
  persistentState : ctx'.persistentState = ctx.persistentState
  connected : ctx'.connected = ctx.connected
  alarms : ctx'.alarms = ctx.alarms
  outgoing : ∃ l, ctx'.outgoing = ctx.outgoing ++ l

theorem SendsOnly.refl (ctx : NodeCtx ι) : SendsOnly ctx ctx :=
  ⟨rfl, rfl, rfl, rfl, ⟨[], (List.append_nil _).symm⟩⟩

theorem SendsOnly.trans {c1 c2 c3 : NodeCtx ι} (h1 : SendsOnly c1 c2) (h2 : SendsOnly c2 c3) :
    SendsOnly c1 c3 := by
  obtain ⟨l1, e1⟩ := h1.outgoing
  obtain ⟨l2, e2⟩ := h2.outgoing
  exact ⟨h2.platformId.trans h1.platformId, h2.persistentState.trans h1.persistentState,
    h2.connected.trans h1.connected, h2.alarms.trans h1.alarms,
    ⟨l1 ++ l2, by rw [e2, e1, List.append_assoc]⟩⟩

theorem send_sendsOnly {ctx ctx' : NodeCtx ι} {dest : ι} {kind : PeerMsgKind ι}
    (h : ctx.send dest kind = some ctx') : SendsOnly ctx ctx' := by
  unfold send at h
  obtain ⟨r, _, rfl⟩ := Option.map_eq_some_iff.mp h
  exact ⟨rfl, rfl, rfl, rfl, ⟨_, rfl⟩⟩

/-- A fold of sends only sends. -/
theorem foldlM_sendsOnly {α : Type} {f : NodeCtx ι → α → Option (NodeCtx ι)} {l : List α}
    {ctx ctx' : NodeCtx ι} (hf : ∀ c c' a, a ∈ l → f c a = some c' → SendsOnly c c')
    (h : l.foldlM f ctx = some ctx') : SendsOnly ctx ctx' := by
  induction l generalizing ctx with
  | nil =>
    simp only [List.foldlM_nil, Option.pure_def, Option.some.injEq] at h
    subst h
    exact SendsOnly.refl ctx
  | cons a as ih =>
    simp only [List.foldlM_cons, Option.bind_eq_bind, Option.bind_eq_some_iff] at h
    obtain ⟨c, hc, hrest⟩ := h
    exact (hf ctx c a List.mem_cons_self hc).trans
      (ih (fun c₁ c₂ b hb => hf c₁ c₂ b (List.mem_cons_of_mem _ hb)) hrest)

/-- Every envelope a send queues is from this node, to the given destination, of the given kind. -/
theorem send_outgoing {ctx ctx' : NodeCtx ι} {dest : ι} {kind : PeerMsgKind ι}
    (h : ctx.send dest kind = some ctx') :
    ∃ r, ctx'.outgoing = ctx.outgoing ++ [⟨dest, ctx.platformId, ⟨r, kind⟩⟩] := by
  unfold send at h
  obtain ⟨r, _, rfl⟩ := Option.map_eq_some_iff.mp h
  exact ⟨r, rfl⟩

/-- A node with a rack id can send: the `expect("rack id exists")` of `send` does not fire. -/
theorem send_isSome {ctx : NodeCtx ι} (h : ctx.persistentState.rackId.isSome) (dest : ι)
    (kind : PeerMsgKind ι) : (ctx.send dest kind).isSome := by
  simpa [send] using h

theorem sendAll_isSome {ctx : NodeCtx ι} (h : ctx.persistentState.rackId.isSome) (dests : List ι)
    (kind : PeerMsgKind ι) : (ctx.sendAll dests kind).isSome := by
  induction dests generalizing ctx with
  | nil => rfl
  | cons d ds ih =>
    obtain ⟨c, hc⟩ := Option.isSome_iff_exists.mp (send_isSome h d kind)
    have hps : c.persistentState = ctx.persistentState := (send_sendsOnly hc).persistentState
    simp only [sendAll, List.foldlM_cons, Option.bind_eq_bind, hc, Option.bind_some]
    exact ih (by rw [hps]; exact h)

/-- The context of the same node, whose queue grew by envelopes that satisfy `Q`. -/
structure Queues (ctx ctx' : NodeCtx ι) (Q : Envelope ι → Prop) : Prop where
  platformId : ctx'.platformId = ctx.platformId
  outgoing : ∃ l, ctx'.outgoing = ctx.outgoing ++ l ∧ ∀ env ∈ l, Q env

namespace Queues

variable {ctx ctx' ctx'' : NodeCtx ι} {Q Q' : Envelope ι → Prop}

theorem refl (ctx : NodeCtx ι) (Q : Envelope ι → Prop) : Queues ctx ctx Q :=
  ⟨rfl, [], (List.append_nil _).symm, fun _ h => absurd h List.not_mem_nil⟩

theorem trans (h₁ : Queues ctx ctx' Q) (h₂ : Queues ctx' ctx'' Q) : Queues ctx ctx'' Q := by
  obtain ⟨l₁, e₁, q₁⟩ := h₁.outgoing
  obtain ⟨l₂, e₂, q₂⟩ := h₂.outgoing
  refine ⟨h₂.platformId.trans h₁.platformId, l₁ ++ l₂, by rw [e₂, e₁, List.append_assoc], ?_⟩
  intro env henv
  rcases List.mem_append.mp henv with h | h
  · exact q₁ env h
  · exact q₂ env h

theorem mono (h : Queues ctx ctx' Q) (hQ : ∀ env, Q env → Q' env) : Queues ctx ctx' Q' := by
  obtain ⟨l, e, q⟩ := h.outgoing
  exact ⟨h.platformId, l, e, fun env h => hQ env (q env h)⟩

/-- A call that left the queue as it was queued nothing. -/
theorem of_outgoing_eq (hpid : ctx'.platformId = ctx.platformId)
    (hout : ctx'.outgoing = ctx.outgoing) : Queues ctx ctx' Q :=
  ⟨hpid, [], by rw [hout, List.append_nil], fun _ h => absurd h List.not_mem_nil⟩

/-- The envelopes a call queued, read off the final queue. -/
theorem mem_outgoing (h : Queues ctx ctx' Q) {env : Envelope ι} (henv : env ∈ ctx'.outgoing) :
    env ∈ ctx.outgoing ∨ Q env := by
  obtain ⟨l, e, q⟩ := h.outgoing
  rw [e, List.mem_append] at henv
  exact henv.imp id (q env)

end Queues

theorem send_queues {ctx ctx' : NodeCtx ι} {dest : ι} {kind : PeerMsgKind ι}
    (h : ctx.send dest kind = some ctx') :
    Queues ctx ctx' fun env => env.sender = ctx.platformId ∧ env.dest = dest ∧ env.msg.kind = kind := by
  obtain ⟨r, hr⟩ := send_outgoing h
  refine ⟨(send_sendsOnly h).platformId, _, hr, ?_⟩
  intro env henv
  rw [List.mem_singleton] at henv
  subst henv
  exact ⟨rfl, rfl, rfl⟩

/-- A fold of sends queues what its steps queue. -/
theorem foldlM_queues {α : Type} {f : NodeCtx ι → α → Option (NodeCtx ι)} {l : List α}
    {ctx ctx' : NodeCtx ι} {Q : Envelope ι → Prop}
    (hf : ∀ c c' a, a ∈ l → c.platformId = ctx.platformId → f c a = some c' → Queues c c' Q)
    (h : l.foldlM f ctx = some ctx') : Queues ctx ctx' Q := by
  induction l generalizing ctx with
  | nil =>
    simp only [List.foldlM_nil, Option.pure_def, Option.some.injEq] at h
    subst h
    exact Queues.refl ctx Q
  | cons a as ih =>
    simp only [List.foldlM_cons, Option.bind_eq_bind, Option.bind_eq_some_iff] at h
    obtain ⟨c, hc, hrest⟩ := h
    have h₁ := hf ctx c a List.mem_cons_self rfl hc
    refine h₁.trans (ih (fun c₁ c₂ b hb hp => hf c₁ c₂ b (List.mem_cons_of_mem _ hb)
      (hp.trans h₁.platformId)) hrest)

theorem sendAll_sendsOnly {ctx ctx' : NodeCtx ι} {dests : List ι} {kind : PeerMsgKind ι}
    (h : ctx.sendAll dests kind = some ctx') : SendsOnly ctx ctx' :=
  foldlM_sendsOnly (fun _ _ _ _ hs => send_sendsOnly hs) h

theorem sendAll_queues {ctx ctx' : NodeCtx ι} {dests : List ι} {kind : PeerMsgKind ι}
    (h : ctx.sendAll dests kind = some ctx') :
    Queues ctx ctx' fun env => env.sender = ctx.platformId ∧ env.msg.kind = kind :=
  foldlM_queues (fun _ _ _ _ hp hs => (send_queues hs).mono fun _ h => ⟨h.1.trans hp, h.2.2⟩) h

theorem updatePersistentState_queues (ctx : NodeCtx ι) (f) (Q : Envelope ι → Prop) :
    Queues ctx (ctx.updatePersistentState f) Q :=
  ⟨rfl, [], (List.append_nil _).symm, fun _ h => absurd h List.not_mem_nil⟩

theorem raiseAlarm_queues (ctx : NodeCtx ι) (a : Alarm ι) (Q : Envelope ι → Prop) :
    Queues ctx (ctx.raiseAlarm a) Q :=
  ⟨rfl, [], (List.append_nil _).symm, fun _ h => absurd h List.not_mem_nil⟩

theorem addConnection_queues (ctx : NodeCtx ι) (id : ι) (Q : Envelope ι → Prop) :
    Queues ctx (ctx.addConnection id) Q :=
  ⟨rfl, [], (List.append_nil _).symm, fun _ h => absurd h List.not_mem_nil⟩

@[simp] theorem updatePersistentState_persistentState (ctx : NodeCtx ι) (f) :
    (ctx.updatePersistentState f).persistentState = f ctx.persistentState := rfl
@[simp] theorem updatePersistentState_platformId (ctx : NodeCtx ι) (f) :
    (ctx.updatePersistentState f).platformId = ctx.platformId := rfl
@[simp] theorem updatePersistentState_outgoing (ctx : NodeCtx ι) (f) :
    (ctx.updatePersistentState f).outgoing = ctx.outgoing := rfl
@[simp] theorem updatePersistentState_connected (ctx : NodeCtx ι) (f) :
    (ctx.updatePersistentState f).connected = ctx.connected := rfl
@[simp] theorem raiseAlarm_persistentState (ctx : NodeCtx ι) (a : Alarm ι) :
    (ctx.raiseAlarm a).persistentState = ctx.persistentState := rfl
@[simp] theorem raiseAlarm_platformId (ctx : NodeCtx ι) (a : Alarm ι) :
    (ctx.raiseAlarm a).platformId = ctx.platformId := rfl
@[simp] theorem raiseAlarm_outgoing (ctx : NodeCtx ι) (a : Alarm ι) :
    (ctx.raiseAlarm a).outgoing = ctx.outgoing := rfl
@[simp] theorem raiseAlarm_connected (ctx : NodeCtx ι) (a : Alarm ι) :
    (ctx.raiseAlarm a).connected = ctx.connected := rfl
@[simp] theorem addConnection_persistentState (ctx : NodeCtx ι) (id : ι) :
    (ctx.addConnection id).persistentState = ctx.persistentState := rfl
@[simp] theorem addConnection_platformId (ctx : NodeCtx ι) (id : ι) :
    (ctx.addConnection id).platformId = ctx.platformId := rfl
@[simp] theorem addConnection_outgoing (ctx : NodeCtx ι) (id : ι) :
    (ctx.addConnection id).outgoing = ctx.outgoing := rfl
@[simp] theorem removeConnection_persistentState (ctx : NodeCtx ι) (id : ι) :
    (ctx.removeConnection id).persistentState = ctx.persistentState := rfl
@[simp] theorem removeConnection_platformId (ctx : NodeCtx ι) (id : ι) :
    (ctx.removeConnection id).platformId = ctx.platformId := rfl
@[simp] theorem removeConnection_outgoing (ctx : NodeCtx ι) (id : ι) :
    (ctx.removeConnection id).outgoing = ctx.outgoing := rfl
@[simp] theorem clearMutableState_persistentState (ctx : NodeCtx ι) :
    ctx.clearMutableState.persistentState = ctx.persistentState := rfl
@[simp] theorem clearMutableState_platformId (ctx : NodeCtx ι) :
    ctx.clearMutableState.platformId = ctx.platformId := rfl
@[simp] theorem clearMutableState_outgoing (ctx : NodeCtx ι) :
    ctx.clearMutableState.outgoing = [] := rfl

end NodeCtx

end Omicron.TrustQuorum
