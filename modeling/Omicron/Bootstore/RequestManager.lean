import Omicron.Lib.SortedFinmap

/-!
# Bootstore v0: the requests in flight

`RequestManager` (`schemes/v0/request_manager.rs`) tracks what a peer has in flight in two
ordered maps: `requests`, from a request's id to the request and the acknowledgements gathered
for it, and `expiry_to_id`, from the instant a request times out to its id. Every operation of
the manager is modelled as the source computes it, the two maps as `Finmap`s read in key order;
the id `Uuid::new_v4()` draws for a new request is an argument.

* `InStep` -- the two maps agree: every expiry names a tracked request, no request has two
  expiries, every tracked request has one;
* `Consistent.step`, `consistent_run` -- every operation keeps them in step, provided the request
  it starts has an id not yet tracked and an expiry not yet taken (`Op.Fresh`); then `expired`
  never meets a missing id (`Consistent.expired`);
* `expired_of_due`, `expired_of_pending` -- what `expired` does: the loop pops the latest expiry
  first and stops at the first one not yet due, so it returns every tracked request when all are
  due, and none as soon as one is not.

Neither proviso of `Op.Fresh` is checked by the code: the expiry map is keyed by instant, so two
requests started at one instant with one timeout share an entry, and `new_learn_received_req`
takes the id a peer sent.
-/

set_option linter.unusedSectionVars false

namespace Omicron.Bootstore

/-- A `Uuid`: the ids of requests and of racks. -/
abbrev Uuid := Nat

/-- An `Instant`, in nanoseconds; a `Duration` is a `Nat` of nanoseconds. -/
abbrev Instant := Nat

/-- `FsmConfig`: the timeout of each kind of request. -/
structure FsmConfig where
  learnTimeout : Nat
  rackInitTimeout : Nat
  rackSecretRequestTimeout : Nat
  deriving DecidableEq, Repr

/-! ## 1. Requests and messages

`β` is the type of baseboards (a peer's id), `σ` of key shares and `π` of share packages; the
manager only stores and forwards them. -/

/-- `InitAcks`. -/
structure InitAcks (β : Type) where
  expected : Finset β
  received : Finset β

/-- `ShareAcks`. -/
structure ShareAcks (β σ : Type) where
  threshold : UInt8
  received : Finmap fun _ : β => σ

/-- `ShareAcks::new`. -/
def ShareAcks.new {β σ : Type} (threshold : UInt8) : ShareAcks β σ := ⟨threshold, ∅⟩

/-- `TrackableRequest`; the `from` of a learn request received is `sender`, the `to` of a learn
    request sent `target`. -/
inductive TrackableRequest (β σ π : Type) where
  | initRack (rackUuid : Uuid) (packages : Finmap fun _ : β => π) (acks : InitAcks β)
  | loadRackSecret (rackUuid : Uuid) (acks : ShareAcks β σ)
  | learnReceived (rackUuid : Uuid) (sender : β) (acks : ShareAcks β σ)
  | learnSent (target : β)

/-- `RequestType`. -/
inductive RequestType (π : Type) where
  | init (pkg : π)
  | getShare (rackUuid : Uuid)
  | learn

/-- `Request`. -/
structure Request (π : Type) where
  id : Uuid
  type : RequestType π

/-- `Envelope`, its `to` named `target`. The manager only sends requests, so its message is a
    `Msg::Req`. -/
structure Envelope (β π : Type) where
  target : β
  msg : Request π

/-- `RequestManager`. -/
structure RequestManager (β σ π : Type) where
  id : β
  config : FsmConfig
  requests : Finmap fun _ : Uuid => TrackableRequest β σ π
  expiryToId : Finmap fun _ : Instant => Uuid
  envelopes : List (Envelope β π)

/-! ## 2. The operations -/

namespace RequestManager

variable {β σ π : Type} [LinearOrder β]

/-- `RequestManager::new`. -/
def new (id : β) (config : FsmConfig) : RequestManager β σ π := ⟨id, config, ∅, ∅, []⟩

/-- `RequestManager::drain_elements`: the envelopes, which leave the manager. -/
def drainElements (rm : RequestManager β σ π) : List (Envelope β π) × RequestManager β σ π :=
  (rm.envelopes, { rm with envelopes := [] })

/-- `RequestManager::new_request`, `id` the id `Uuid::new_v4()` draws. -/
def newRequest (rm : RequestManager β σ π) (id : Uuid) (expiry : Instant)
    (request : TrackableRequest β σ π) : RequestManager β σ π :=
  { rm with requests := rm.requests.insert id request, expiryToId := rm.expiryToId.insert expiry id }

/-- `RequestManager::broadcast_get_share`: a `GetShare` to each connected peer. -/
def broadcastGetShare (rm : RequestManager β σ π) (requestId rackUuid : Uuid)
    (connectedPeers : Finset β) : RequestManager β σ π :=
  { rm with
    envelopes := rm.envelopes ++
      connectedPeers.ascending.map fun target => ⟨target, ⟨requestId, .getShare rackUuid⟩⟩ }

/-- `RequestManager::new_init_rack_req`: expected acks from every member but this peer, and an
    `Init` to each connected member. The id returned is `requestId`. -/
def newInitRackReq (rm : RequestManager β σ π) (requestId : Uuid) (now : Instant) (rackUuid : Uuid)
    (packages : Finmap fun _ : β => π) (connectedPeers : Finset β) : RequestManager β σ π :=
  let expiry := now + rm.config.rackInitTimeout
  let acks : InitAcks β := ⟨packages.keys.filter (· ≠ rm.id), ∅⟩
  let rm := rm.newRequest requestId expiry (.initRack rackUuid packages acks)
  { rm with
    envelopes := rm.envelopes ++
      (packages.sortedEntries.filter fun e => e.1 ∈ connectedPeers).map fun e =>
        ⟨e.1, ⟨requestId, .init e.2⟩⟩ }

/-- `RequestManager::new_load_rack_secret_req`. The id returned is `requestId`. -/
def newLoadRackSecretReq (rm : RequestManager β σ π) (requestId : Uuid) (now : Instant)
    (rackUuid : Uuid) (threshold : UInt8) (connectedPeers : Finset β) : RequestManager β σ π :=
  let expiry := now + rm.config.rackSecretRequestTimeout
  (rm.newRequest requestId expiry (.loadRackSecret rackUuid (.new threshold))).broadcastGetShare
    requestId rackUuid connectedPeers

/-- `RequestManager::new_learn_received_req`: the two inserts of `new_request`, under the id the
    learning peer sent. -/
def newLearnReceivedReq (rm : RequestManager β σ π) (requestId : Uuid) (now : Instant)
    (rackUuid : Uuid) (threshold : UInt8) (sender : β) (connectedPeers : Finset β) :
    RequestManager β σ π :=
  let expiry := now + rm.config.learnTimeout
  (rm.newRequest requestId expiry (.learnReceived rackUuid sender (.new threshold))).broadcastGetShare
    requestId rackUuid connectedPeers

/-- `RequestManager::new_learn_sent_req`. The id returned is `requestId`. -/
def newLearnSentReq (rm : RequestManager β σ π) (requestId : Uuid) (now : Instant) (target : β) :
    RequestManager β σ π :=
  let rm := rm.newRequest requestId (now + rm.config.learnTimeout) (.learnSent target)
  { rm with envelopes := rm.envelopes ++ [⟨target, ⟨requestId, .learn⟩⟩] }

/-- `RequestManager::remove_request`: every expiry of the id goes, then the request. -/
def removeRequest (rm : RequestManager β σ π) (requestId : Uuid) :
    RequestManager β σ π × Option (TrackableRequest β σ π) :=
  ({ rm with
      expiryToId := rm.expiryToId.retain fun _ id => id != requestId
      requests := rm.requests.erase requestId },
    rm.requests.lookup requestId)

/-- `RequestManager::has_learn_sent_req`. -/
def hasLearnSentReq (rm : RequestManager β σ π) : Bool :=
  rm.requests.sortedValues.any fun
    | .learnSent _ => true
    | _ => false

/-- `RequestManager::has_init_rack_req`. -/
def hasInitRackReq (rm : RequestManager β σ π) : Bool :=
  rm.requests.sortedValues.any fun
    | .initRack .. => true
    | _ => false

/-- The loop of `RequestManager::expired` over the entries `pop_last` meets, latest expiry first:
    a due entry is popped and its request removed (`none` is the panic of `unwrap` on an id that
    is not tracked); the first entry not due is put back and ends the loop. -/
def expiredLoop (now : Instant) :
    List (Instant × Uuid) → RequestManager β σ π → (Finmap fun _ : Uuid => TrackableRequest β σ π) →
      Option (RequestManager β σ π × Finmap fun _ : Uuid => TrackableRequest β σ π)
  | [], rm, expired => some (rm, expired)
  | (expiry, requestId) :: rest, rm, expired =>
    if expiry < now then
      match rm.requests.lookup requestId with
      | some request =>
        expiredLoop now rest
          { rm with
            requests := rm.requests.erase requestId
            expiryToId := rm.expiryToId.erase expiry }
          (expired.insert requestId request)
      | none => none
    else some (rm, expired)

/-- `RequestManager::expired`. -/
def expired (rm : RequestManager β σ π) (now : Instant) :
    Option (RequestManager β σ π × Finmap fun _ : Uuid => TrackableRequest β σ π) :=
  expiredLoop now rm.expiryToId.sortedEntries.reverse rm ∅

/-- `RequestManager::on_init_ack`: an ack from an expected member is recorded; the request is
    done when every expected member has acked. -/
def onInitAck (rm : RequestManager β σ π) (sender : β) (requestId : Uuid) :
    RequestManager β σ π × Option Bool :=
  match rm.requests.lookup requestId with
  | some (.initRack rackUuid packages acks) =>
    if sender ∈ acks.expected then
      let acks := { acks with received := insert sender acks.received }
      let rm := { rm with requests := rm.requests.insert requestId (.initRack rackUuid packages acks) }
      if acks.received = acks.expected then ((rm.removeRequest requestId).1, some true)
      else (rm, some false)
    else (rm, none)
  | _ => (rm, none)

/-- The body of `RequestManager::on_share` once the request's acks are found: the share is
    recorded, and a threshold less one shares (this peer holds its own) completes the request.
    `threshold - 1` wraps, as a `u8` does in a release build. -/
def recordShare (rm : RequestManager β σ π) (requestId : Uuid)
    (rebuild : ShareAcks β σ → TrackableRequest β σ π) (acks : ShareAcks β σ) (sender : β)
    (share : σ) : RequestManager β σ π × Option (TrackableRequest β σ π) :=
  let acks := { acks with received := acks.received.insert sender share }
  let rm := { rm with requests := rm.requests.insert requestId (rebuild acks) }
  if acks.received.keys.card = (acks.threshold - 1).toNat then rm.removeRequest requestId
  else (rm, none)

/-- `RequestManager::on_share`. -/
def onShare (rm : RequestManager β σ π) (sender : β) (requestId : Uuid) (share : σ) :
    RequestManager β σ π × Option (TrackableRequest β σ π) :=
  match rm.requests.lookup requestId with
  | some (.loadRackSecret rackUuid acks) =>
    rm.recordShare requestId (.loadRackSecret rackUuid) acks sender share
  | some (.learnReceived rackUuid sender₀ acks) =>
    rm.recordShare requestId (.learnReceived rackUuid sender₀) acks sender share
  | _ => (rm, none)

/-- `RequestManager::on_learn_pkg`. -/
def onLearnPkg (rm : RequestManager β σ π) (requestId : Uuid) : RequestManager β σ π × Bool :=
  match rm.requests.lookup requestId with
  | some (.learnSent _) => ((rm.removeRequest requestId).1, true)
  | _ => (rm, false)

/-- What `RequestManager::on_connected` sends a newly connected peer for one request. -/
def connectedEnvelopes (peerId : β) : Uuid × TrackableRequest β σ π → List (Envelope β π)
  | (requestId, .initRack _ packages acks) =>
    if peerId ∈ acks.received ∨ peerId ∉ acks.expected then []
    else match packages.lookup peerId with
      | some pkg => [⟨peerId, ⟨requestId, .init pkg⟩⟩]
      | none => []
  | (requestId, .loadRackSecret rackUuid acks) =>
    if peerId ∈ acks.received then [] else [⟨peerId, ⟨requestId, .getShare rackUuid⟩⟩]
  | (requestId, .learnReceived rackUuid _ acks) =>
    if peerId ∈ acks.received then [] else [⟨peerId, ⟨requestId, .getShare rackUuid⟩⟩]
  | (_, .learnSent _) => []

/-- `RequestManager::on_connected`: the requests by id upward. -/
def onConnected (rm : RequestManager β σ π) (peerId : β) : RequestManager β σ π :=
  { rm with envelopes := rm.envelopes ++ rm.requests.sortedEntries.flatMap (connectedEnvelopes peerId) }

end RequestManager

/-- A call on the manager. The first argument of a call that starts a request is the id
    `Uuid::new_v4()` draws, or for a learn request received the id the peer sent. -/
inductive Op (β σ π : Type) where
  | newInitRackReq (requestId : Uuid) (now : Instant) (rackUuid : Uuid)
      (packages : Finmap fun _ : β => π) (connectedPeers : Finset β)
  | newLoadRackSecretReq (requestId : Uuid) (now : Instant) (rackUuid : Uuid) (threshold : UInt8)
      (connectedPeers : Finset β)
  | newLearnReceivedReq (requestId : Uuid) (now : Instant) (rackUuid : Uuid) (threshold : UInt8)
      (sender : β) (connectedPeers : Finset β)
  | newLearnSentReq (requestId : Uuid) (now : Instant) (target : β)
  | onInitAck (sender : β) (requestId : Uuid)
  | onShare (sender : β) (requestId : Uuid) (share : σ)
  | onLearnPkg (requestId : Uuid)
  | onConnected (peerId : β)
  | drainElements
  | expired (now : Instant)

namespace RequestManager

variable {β σ π : Type} [LinearOrder β]

/-- One call, `none` when it panics. -/
def step (rm : RequestManager β σ π) : Op β σ π → Option (RequestManager β σ π)
  | .newInitRackReq requestId now rackUuid packages connectedPeers =>
    some (rm.newInitRackReq requestId now rackUuid packages connectedPeers)
  | .newLoadRackSecretReq requestId now rackUuid threshold connectedPeers =>
    some (rm.newLoadRackSecretReq requestId now rackUuid threshold connectedPeers)
  | .newLearnReceivedReq requestId now rackUuid threshold sender connectedPeers =>
    some (rm.newLearnReceivedReq requestId now rackUuid threshold sender connectedPeers)
  | .newLearnSentReq requestId now target => some (rm.newLearnSentReq requestId now target)
  | .onInitAck sender requestId => some (rm.onInitAck sender requestId).1
  | .onShare sender requestId share => some (rm.onShare sender requestId share).1
  | .onLearnPkg requestId => some (rm.onLearnPkg requestId).1
  | .onConnected peerId => some (rm.onConnected peerId)
  | .drainElements => some rm.drainElements.2
  | .expired now => (rm.expired now).map Prod.fst

/-- A sequence of calls, `none` when one panics. -/
def run (rm : RequestManager β σ π) : List (Op β σ π) → Option (RequestManager β σ π)
  | [] => some rm
  | op :: ops => (rm.step op).bind fun rm' => rm'.run ops

end RequestManager

/-! ## 3. The two maps in step -/

/-- The tracked requests and the expiry map agree: every expiry names a tracked request, no
    request has two expiries, and every tracked request has one. -/
structure InStep {γ : Type} (requests : Finmap fun _ : Uuid => γ)
    (expiryToId : Finmap fun _ : Instant => Uuid) : Prop where
  tracked : ∀ expiry requestId, expiryToId.lookup expiry = some requestId → requestId ∈ requests
  injective : ∀ e₁ e₂ requestId, expiryToId.lookup e₁ = some requestId →
    expiryToId.lookup e₂ = some requestId → e₁ = e₂
  scheduled : ∀ requestId ∈ requests, ∃ expiry, expiryToId.lookup expiry = some requestId

namespace InStep

variable {γ : Type} {requests : Finmap fun _ : Uuid => γ} {expiryToId : Finmap fun _ : Instant => Uuid}

theorem empty : InStep (∅ : Finmap fun _ : Uuid => γ) ∅ where
  tracked _ _ h := by simp at h
  injective _ _ _ h := by simp at h
  scheduled _ h := absurd h (Finmap.notMem_empty)

/-- A request under a new id with an expiry not yet taken. -/
theorem insert (h : InStep requests expiryToId) {requestId : Uuid} {expiry : Instant} (r : γ)
    (hid : requestId ∉ requests) (he : expiry ∉ expiryToId) :
    InStep (requests.insert requestId r) (expiryToId.insert expiry requestId) where
  tracked e id hl := by
    rcases Finmap.lookup_insert_eq_some hl with ⟨-, rfl⟩ | hold
    · exact Finmap.mem_insert.mpr (.inl rfl)
    · exact Finmap.mem_insert.mpr (.inr (h.tracked e id hold))
  injective e₁ e₂ id h₁ h₂ := by
    -- an old expiry of the new id would make it tracked already
    rcases Finmap.lookup_insert_eq_some h₁ with ⟨rfl, rfl⟩ | hold₁
    · rcases Finmap.lookup_insert_eq_some h₂ with ⟨rfl, -⟩ | hold₂
      · rfl
      · exact absurd (h.tracked e₂ _ hold₂) hid
    · rcases Finmap.lookup_insert_eq_some h₂ with ⟨rfl, rfl⟩ | hold₂
      · exact absurd (h.tracked e₁ _ hold₁) hid
      · exact h.injective e₁ e₂ id hold₁ hold₂
  scheduled id hid' := by
    rcases Finmap.mem_insert.mp hid' with rfl | hold
    · exact ⟨expiry, Finmap.lookup_insert _⟩
    · obtain ⟨e, he'⟩ := h.scheduled id hold
      have hne : e ≠ expiry := fun hee => he (hee ▸ Finmap.mem_of_lookup_eq_some he')
      exact ⟨e, by rwa [Finmap.lookup_insert_of_ne _ hne]⟩

/-- A new value under a tracked id. -/
theorem replace (h : InStep requests expiryToId) {requestId : Uuid} (r : γ)
    (hid : requestId ∈ requests) : InStep (requests.insert requestId r) expiryToId where
  tracked e id hl := Finmap.mem_insert.mpr (.inr (h.tracked e id hl))
  injective := h.injective
  scheduled id hid' := by
    rcases Finmap.mem_insert.mp hid' with rfl | hold
    · exact h.scheduled id hid
    · exact h.scheduled id hold

/-- `remove_request`: the id and every expiry naming it go. -/
theorem retain (h : InStep requests expiryToId) (requestId : Uuid) :
    InStep (requests.erase requestId) (expiryToId.retain fun _ id => id != requestId) where
  tracked e id hl := by
    rw [Finmap.lookup_retain, Option.filter_eq_some_iff] at hl
    obtain ⟨hl, hne⟩ := hl
    exact Finmap.mem_erase.mpr ⟨by simpa using hne, h.tracked e id hl⟩
  injective e₁ e₂ id h₁ h₂ := by
    rw [Finmap.lookup_retain, Option.filter_eq_some_iff] at h₁ h₂
    exact h.injective e₁ e₂ id h₁.1 h₂.1
  scheduled id hid := by
    obtain ⟨hne, hold⟩ := Finmap.mem_erase.mp hid
    obtain ⟨e, he⟩ := h.scheduled id hold
    exact ⟨e, by rw [Finmap.lookup_retain, he]; simp [hne]⟩

/-- `pop_last` of an entry, and the removal of its request. -/
theorem pop (h : InStep requests expiryToId) {expiry : Instant} {requestId : Uuid}
    (he : expiryToId.lookup expiry = some requestId) :
    InStep (requests.erase requestId) (expiryToId.erase expiry) where
  tracked e id hl := by
    have hold := Finmap.lookup_of_lookup_erase hl
    have hne : e ≠ expiry := fun hee => by
      subst hee
      rw [Finmap.lookup_erase] at hl
      cases hl
    -- the popped id had no other expiry
    have hid : id ≠ requestId := fun hid => hne (h.injective e expiry id hold (hid ▸ he))
    exact Finmap.mem_erase.mpr ⟨hid, h.tracked e id hold⟩
  injective e₁ e₂ id h₁ h₂ :=
    h.injective e₁ e₂ id (Finmap.lookup_of_lookup_erase h₁) (Finmap.lookup_of_lookup_erase h₂)
  scheduled id hid := by
    obtain ⟨hne, hold⟩ := Finmap.mem_erase.mp hid
    obtain ⟨e, he'⟩ := h.scheduled id hold
    have hee : e ≠ expiry := fun hee => hne (Option.some.inj ((hee ▸ he').symm.trans he))
    exact ⟨e, by rwa [Finmap.lookup_erase_ne hee]⟩

end InStep

namespace RequestManager

variable {β σ π : Type} [LinearOrder β]

/-- The manager's two maps are in step. -/
def Consistent (rm : RequestManager β σ π) : Prop := InStep rm.requests rm.expiryToId

theorem consistent_new (id : β) (config : FsmConfig) :
    (new id config : RequestManager β σ π).Consistent :=
  InStep.empty

theorem Consistent.newRequest {rm : RequestManager β σ π} (h : rm.Consistent) {requestId : Uuid}
    {expiry : Instant} (request : TrackableRequest β σ π) (hid : requestId ∉ rm.requests)
    (he : expiry ∉ rm.expiryToId) : (rm.newRequest requestId expiry request).Consistent :=
  InStep.insert h request hid he

theorem Consistent.removeRequest {rm : RequestManager β σ π} (h : rm.Consistent)
    (requestId : Uuid) : (rm.removeRequest requestId).1.Consistent :=
  InStep.retain h requestId

theorem Consistent.onInitAck {rm : RequestManager β σ π} (h : rm.Consistent) (sender : β)
    (requestId : Uuid) : (rm.onInitAck sender requestId).1.Consistent := by
  unfold RequestManager.onInitAck
  dsimp only
  split
  · rename_i rackUuid packages acks hl
    have hrep : InStep (rm.requests.insert requestId
        (.initRack rackUuid packages { acks with received := insert sender acks.received }))
        rm.expiryToId := InStep.replace h _ (Finmap.mem_of_lookup_eq_some hl)
    split
    · split
      · exact InStep.retain hrep requestId
      · exact hrep
    · exact h
  · exact h

theorem Consistent.recordShare {rm : RequestManager β σ π} (h : rm.Consistent) {requestId : Uuid}
    (hid : requestId ∈ rm.requests) (rebuild : ShareAcks β σ → TrackableRequest β σ π)
    (acks : ShareAcks β σ) (sender : β) (share : σ) :
    (rm.recordShare requestId rebuild acks sender share).1.Consistent := by
  have hrep := InStep.replace h (rebuild { acks with received := acks.received.insert sender share }) hid
  unfold RequestManager.recordShare
  dsimp only
  split
  · exact InStep.retain hrep requestId
  · exact hrep

theorem Consistent.onShare {rm : RequestManager β σ π} (h : rm.Consistent) (sender : β)
    (requestId : Uuid) (share : σ) : (rm.onShare sender requestId share).1.Consistent := by
  unfold RequestManager.onShare
  split
  · rename_i hl
    exact h.recordShare (Finmap.mem_of_lookup_eq_some hl) _ _ sender share
  · rename_i hl
    exact h.recordShare (Finmap.mem_of_lookup_eq_some hl) _ _ sender share
  · exact h

theorem Consistent.onLearnPkg {rm : RequestManager β σ π} (h : rm.Consistent) (requestId : Uuid) :
    (rm.onLearnPkg requestId).1.Consistent := by
  unfold RequestManager.onLearnPkg
  split
  · exact h.removeRequest requestId
  · exact h

/-! ## 4. `expired` -/

/-- The entries left for the loop: distinct expiries, each still in the map. -/
structure Pending (l : List (Instant × Uuid)) (expiryToId : Finmap fun _ : Instant => Uuid) :
    Prop where
  nodup : (l.map Prod.fst).Nodup
  lookup : ∀ p ∈ l, expiryToId.lookup p.1 = some p.2

theorem Pending.pop {expiry : Instant} {requestId : Uuid} {rest : List (Instant × Uuid)}
    {expiryToId : Finmap fun _ : Instant => Uuid} (h : Pending ((expiry, requestId) :: rest) expiryToId) :
    Pending rest (expiryToId.erase expiry) where
  nodup := (List.nodup_cons.mp h.nodup).2
  lookup p hp := by
    have hmem : p.1 ∈ rest.map Prod.fst := List.mem_map_of_mem hp
    have hne : p.1 ≠ expiry := fun he => (List.nodup_cons.mp h.nodup).1 (he ▸ hmem)
    rw [Finmap.lookup_erase_ne hne]
    exact h.lookup p (List.mem_cons_of_mem _ hp)

/-- What `pop_last` meets: every entry of the map, latest first. -/
theorem pending_sortedEntries (expiryToId : Finmap fun _ : Instant => Uuid) :
    Pending expiryToId.sortedEntries.reverse expiryToId where
  nodup := by
    rw [List.map_reverse, List.nodup_reverse]
    exact Finmap.nodup_sortedEntries_map_fst _
  lookup p hp := Finmap.mem_sortedEntries.mp (List.mem_reverse.mp hp)

/-- The loop only touches the two maps. -/
theorem expiredLoop_frame {now : Instant} :
    ∀ {l : List (Instant × Uuid)} {rm rm' : RequestManager β σ π} {out out'},
      expiredLoop now l rm out = some (rm', out') →
        rm'.id = rm.id ∧ rm'.config = rm.config ∧ rm'.envelopes = rm.envelopes
  | [], _, _, _, _, h => by cases h; exact ⟨rfl, rfl, rfl⟩
  | (expiry, requestId) :: rest, rm, rm', out, out', h => by
    unfold expiredLoop at h
    split at h
    · split at h
      · have hframe := expiredLoop_frame h
        exact hframe
      · cases h
    · cases h
      exact ⟨rfl, rfl, rfl⟩

/-- **On maps in step the loop never panics**, and leaves them in step. -/
theorem expiredLoop_inStep {now : Instant} :
    ∀ (l : List (Instant × Uuid)) (rm : RequestManager β σ π) out,
      rm.Consistent → Pending l rm.expiryToId →
        ∃ rm' out', expiredLoop now l rm out = some (rm', out') ∧ rm'.Consistent
  | [], rm, out, h, _ => ⟨rm, out, rfl, h⟩
  | (expiry, requestId) :: rest, rm, out, h, hl => by
    have he := hl.lookup _ List.mem_cons_self
    -- the entry names a tracked request, so `unwrap` finds it
    obtain ⟨r, hr⟩ := Finmap.mem_iff.mp (h.tracked expiry requestId he)
    by_cases hlt : expiry < now
    · simp only [expiredLoop, if_pos hlt, hr]
      exact expiredLoop_inStep rest _ _ (InStep.pop h he) hl.pop
    · exact ⟨rm, out, by simp only [expiredLoop, if_neg hlt], h⟩

theorem Consistent.expired {rm : RequestManager β σ π} (h : rm.Consistent) (now : Instant) :
    ∃ rm' out, rm.expired now = some (rm', out) ∧ rm'.Consistent :=
  expiredLoop_inStep _ rm ∅ h (pending_sortedEntries rm.expiryToId)

/-- **`expired` stops at the first expiry not due**: popped first, the latest one ends the loop
    when it is not due, and nothing is returned or removed. -/
theorem expired_of_pending {rm : RequestManager β σ π} {now expiry : Instant}
    (he : expiry ∈ rm.expiryToId) (hle : now ≤ expiry) : rm.expired now = some (rm, ∅) := by
  have hpw := Finmap.pairwise_sortedEntries_reverse rm.expiryToId
  have hmem : expiry ∈ rm.expiryToId.sortedEntries.reverse.map Prod.fst := by
    obtain ⟨id, hid⟩ := Finmap.mem_iff.mp he
    exact List.mem_map_of_mem (List.mem_reverse.mpr (Finmap.mem_sortedEntries.mpr hid))
  unfold expired
  cases hl : rm.expiryToId.sortedEntries.reverse with
  | nil => simp [hl] at hmem
  | cons p rest =>
    rw [hl, List.map_cons, List.pairwise_cons] at hpw
    rw [hl, List.map_cons, List.mem_cons] at hmem
    -- the first entry has the latest expiry
    have hlast : expiry ≤ p.1 := by
      rcases hmem with heq | hrest
      · exact heq.le
      · exact hpw.1 expiry hrest
    obtain ⟨e, id⟩ := p
    have hnlt : ¬ e < now := Nat.not_lt.mpr (hle.trans hlast)
    rw [expiredLoop, if_neg hnlt]

/-- The loop over entries that are all due, with the requests of `orig` accounted for: each is
    either still tracked and not yet returned, or removed and returned. -/
theorem expiredLoop_of_due {now : Instant} (orig : Finmap fun _ : Uuid => TrackableRequest β σ π) :
    ∀ (l : List (Instant × Uuid)) (rm : RequestManager β σ π) out,
      rm.Consistent → Pending l rm.expiryToId → (∀ e ∈ rm.expiryToId, e ∈ l.map Prod.fst) →
      (∀ p ∈ l, p.1 < now) →
      (∀ id, (rm.requests.lookup id = orig.lookup id ∧ out.lookup id = none) ∨
        (id ∉ rm.requests ∧ out.lookup id = orig.lookup id)) →
      ∃ rm' out', expiredLoop now l rm out = some (rm', out') ∧
        (∀ id, rm'.requests.lookup id = none) ∧ (∀ e, rm'.expiryToId.lookup e = none) ∧
        ∀ id, out'.lookup id = orig.lookup id
  | [], rm, out, h, _, hcov, _, hacc => by
    -- nothing is left in the expiry map, so nothing is tracked
    have hnoexp : ∀ e, rm.expiryToId.lookup e = none := fun e =>
      Finmap.lookup_eq_none.mpr fun he => by simpa using hcov e he
    have hnoreq : ∀ id, rm.requests.lookup id = none := fun id =>
      Finmap.lookup_eq_none.mpr fun hid => by
        obtain ⟨e, he⟩ := h.scheduled id hid
        simp [hnoexp e] at he
    refine ⟨rm, out, rfl, hnoreq, hnoexp, fun id => ?_⟩
    rcases hacc id with ⟨hr, ho⟩ | ⟨-, ho⟩
    · rw [ho, ← hr, hnoreq id]
    · exact ho
  | (expiry, requestId) :: rest, rm, out, h, hl, hcov, hdue, hacc => by
    have he := hl.lookup _ List.mem_cons_self
    obtain ⟨r, hr⟩ := Finmap.mem_iff.mp (h.tracked expiry requestId he)
    simp only [expiredLoop, if_pos (hdue _ List.mem_cons_self), hr]
    refine expiredLoop_of_due orig rest _ _ (InStep.pop h he) hl.pop ?_
      (fun p hp => hdue p (List.mem_cons_of_mem _ hp)) ?_
    · intro e he'
      obtain ⟨hne, hold⟩ := Finmap.mem_erase.mp he'
      simpa [hne] using hcov e hold
    · intro id
      by_cases hid : id = requestId
      · subst hid
        -- the popped request was still tracked, so it had not been returned
        have hr' : rm.requests.lookup id = orig.lookup id := by
          rcases hacc id with ⟨hro, -⟩ | ⟨hn, -⟩
          · exact hro
          · exact absurd (Finmap.mem_of_lookup_eq_some hr) hn
        exact .inr ⟨Finmap.notMem_erase_self, by rw [Finmap.lookup_insert, ← hr', hr]⟩
      · simp only [Finmap.lookup_erase_ne hid, Finmap.lookup_insert_of_ne _ hid, Finmap.mem_erase,
          ne_eq, hid, not_false_eq_true, true_and]
        exact hacc id

/-- **`expired` when every expiry is due**: every tracked request is returned, and both maps are
    left empty. -/
theorem expired_of_due {rm : RequestManager β σ π} (h : rm.Consistent) {now : Instant}
    (hdue : ∀ expiry ∈ rm.expiryToId, expiry < now) :
    ∃ out, rm.expired now = some ({ rm with requests := ∅, expiryToId := ∅ }, out) ∧
      ∀ requestId, out.lookup requestId = rm.requests.lookup requestId := by
  have hl := pending_sortedEntries rm.expiryToId
  obtain ⟨rm', out, hrun, hreq, hexp, hout⟩ := expiredLoop_of_due rm.requests _ rm ∅ h hl
    (fun e he => by
      obtain ⟨id, hid⟩ := Finmap.mem_iff.mp he
      exact List.mem_map_of_mem (List.mem_reverse.mpr (Finmap.mem_sortedEntries.mpr hid)))
    (fun p hp => hdue p.1 (Finmap.mem_of_lookup_eq_some (hl.lookup p hp)))
    (fun id => .inl ⟨rfl, Finmap.lookup_empty id⟩)
  obtain ⟨hid, hconfig, henv⟩ := expiredLoop_frame hrun
  refine ⟨out, ?_, hout⟩
  have hrm : rm' = { rm with requests := ∅, expiryToId := ∅ } := by
    cases rm'
    simp only at hid hconfig henv
    subst hid hconfig henv
    congr
    · exact Finmap.ext_lookup fun id => by simpa using hreq id
    · exact Finmap.ext_lookup fun e => by simpa using hexp e
  rw [← hrm]
  exact hrun

/-! ## 5. Runs -/

/-- The provisos under which a call keeps the maps in step: a request it starts has an id not
    yet tracked and an expiry not yet taken. -/
def Op.Fresh (rm : RequestManager β σ π) : Op β σ π → Prop
  | .newInitRackReq requestId now .. =>
    requestId ∉ rm.requests ∧ now + rm.config.rackInitTimeout ∉ rm.expiryToId
  | .newLoadRackSecretReq requestId now .. =>
    requestId ∉ rm.requests ∧ now + rm.config.rackSecretRequestTimeout ∉ rm.expiryToId
  | .newLearnReceivedReq requestId now .. =>
    requestId ∉ rm.requests ∧ now + rm.config.learnTimeout ∉ rm.expiryToId
  | .newLearnSentReq requestId now _ =>
    requestId ∉ rm.requests ∧ now + rm.config.learnTimeout ∉ rm.expiryToId
  | _ => True

/-- **One call keeps the maps in step**, and on maps in step no call panics. -/
theorem Consistent.step {rm : RequestManager β σ π} (h : rm.Consistent) {op : Op β σ π}
    (hf : Op.Fresh rm op) : ∃ rm', rm.step op = some rm' ∧ rm'.Consistent := by
  cases op with
  | newInitRackReq requestId now rackUuid packages connectedPeers =>
    exact ⟨_, rfl, h.newRequest _ hf.1 hf.2⟩
  | newLoadRackSecretReq requestId now rackUuid threshold connectedPeers =>
    exact ⟨_, rfl, h.newRequest _ hf.1 hf.2⟩
  | newLearnReceivedReq requestId now rackUuid threshold sender connectedPeers =>
    exact ⟨_, rfl, h.newRequest _ hf.1 hf.2⟩
  | newLearnSentReq requestId now target => exact ⟨_, rfl, h.newRequest _ hf.1 hf.2⟩
  | onInitAck sender requestId => exact ⟨_, rfl, h.onInitAck sender requestId⟩
  | onShare sender requestId share => exact ⟨_, rfl, h.onShare sender requestId share⟩
  | onLearnPkg requestId => exact ⟨_, rfl, h.onLearnPkg requestId⟩
  | onConnected peerId => exact ⟨_, rfl, h⟩
  | drainElements => exact ⟨_, rfl, h⟩
  | expired now =>
    obtain ⟨rm', out, hexp, h'⟩ := h.expired now
    exact ⟨rm', by rw [RequestManager.step, hexp]; rfl, h'⟩

/-- The provisos along a whole run, each read in the state the call meets. -/
def FreshRun : RequestManager β σ π → List (Op β σ π) → Prop
  | _, [] => True
  | rm, op :: ops => Op.Fresh rm op ∧ ∀ rm', rm.step op = some rm' → FreshRun rm' ops

/-- **Every run whose calls meet their provisos keeps the maps in step and never panics.** -/
theorem consistent_run :
    ∀ (ops : List (Op β σ π)) (rm : RequestManager β σ π), rm.Consistent → FreshRun rm ops →
      ∃ rm', rm.run ops = some rm' ∧ rm'.Consistent
  | [], rm, h, _ => ⟨rm, rfl, h⟩
  | op :: ops, rm, h, ⟨hf, hrest⟩ => by
    obtain ⟨rm₁, hstep, h₁⟩ := h.step hf
    obtain ⟨rm', hrun, h'⟩ := consistent_run ops rm₁ h₁ (hrest rm₁ hstep)
    exact ⟨rm', by simp [run, hstep, hrun], h'⟩


/-- `InStep` in the words of the maps' iterators: the ids `expiry_to_id` holds are distinct, and
    they are the keys of `requests`. -/
theorem consistent_iff (rm : RequestManager β σ π) :
    rm.Consistent ↔
      rm.expiryToId.sortedValues.Nodup ∧ rm.expiryToId.sortedValues.toFinset = rm.requests.keys := by
  have hvals : ∀ id, id ∈ rm.expiryToId.sortedValues ↔ ∃ e, rm.expiryToId.lookup e = some id :=
    fun id => Finmap.mem_sortedValues
  have hnd : rm.expiryToId.sortedEntries.Nodup :=
    (Finmap.nodup_sortedEntries_map_fst rm.expiryToId).of_map _
  constructor
  · intro h
    refine ⟨hnd.map_on fun p hp q hq hpq => ?_, Finset.ext fun id => ?_⟩
    · -- two entries with one id have one expiry
      have hp' := Finmap.mem_sortedEntries.mp hp
      have hq' := Finmap.mem_sortedEntries.mp hq
      rw [hpq] at hp'
      exact Prod.ext (h.injective _ _ _ hp' hq') hpq
    · rw [List.mem_toFinset, hvals, Finmap.mem_keys]
      exact ⟨fun ⟨e, he⟩ => h.tracked e id he, h.scheduled id⟩
  · rintro ⟨hnodup, hkeys⟩
    have hmem : ∀ id, id ∈ rm.requests ↔ ∃ e, rm.expiryToId.lookup e = some id := fun id => by
      rw [← Finmap.mem_keys, ← hkeys, List.mem_toFinset, hvals]
    refine ⟨fun e id he => (hmem id).mpr ⟨e, he⟩, fun e₁ e₂ id h₁ h₂ => ?_, fun id hid => (hmem id).mp hid⟩
    have hinj := List.inj_on_of_nodup_map hnodup (Finmap.mem_sortedEntries.mpr h₁)
      (Finmap.mem_sortedEntries.mpr h₂) rfl
    exact congrArg Prod.fst hinj

/-! ## 6. Where the provisos fail -/

/-- **The maps fall out of step on reachable states.** A peer that sends its learn request again,
    five nanoseconds later, gets a second expiry under the same id; once both are due, `expired`
    removes the request at the later one and panics on the missing id at the earlier one. Two
    rack-secret loads started at one instant share one expiry, and the first is left tracked
    without one. -/
theorem expiryToId_out_of_step :
    (∃ rm, (new 0 ⟨10, 10, 10⟩ : RequestManager Nat Unit Unit).run
        [.newLearnReceivedReq 7 0 0 2 1 ∅, .newLearnReceivedReq 7 5 0 2 1 ∅] = some rm ∧
      rm.expiryToId.sortedValues = [7, 7] ∧ rm.expired 20 = none) ∧
    (∃ rm, (new 0 ⟨10, 10, 10⟩ : RequestManager Nat Unit Unit).run
        [.newLoadRackSecretReq 1 0 0 2 ∅, .newLoadRackSecretReq 2 0 0 2 ∅] = some rm ∧
      rm.requests.keys = {1, 2} ∧ rm.expiryToId.sortedValues = [2]) :=
  ⟨⟨_, rfl, rfl, rfl⟩, ⟨_, rfl, by decide, rfl⟩⟩

/-- **`expired` misses a due request behind a pending one.** With loads expiring at 10 and 20,
    `expired 15` meets the pending one first and returns nothing, though the first is due. -/
theorem expired_misses_due_request :
    ∃ rm, (new 0 ⟨10, 10, 10⟩ : RequestManager Nat Unit Unit).run
        [.newLoadRackSecretReq 1 0 0 2 ∅, .newLoadRackSecretReq 2 10 0 2 ∅] = some rm ∧
      rm.expiryToId.sortedEntries = [(10, 1), (20, 2)] ∧ rm.expired 15 = some (rm, ∅) :=
  ⟨_, rfl, rfl, rfl⟩

end RequestManager

end Omicron.Bootstore
