import Omicron.TrustQuorum.Crypto

/-!
# Trust quorum: validating requests from Nexus

`validators.rs`: the checks a node makes before it coordinates a reconfiguration or an upgrade
from LRTQ.

* `PersistentStateSummary`, `summary` -- what the reconfiguration checks read of the node's state;
* `checkSizes` -- the size checks that both `check_membership_sizes` make, with the two source
  functions as instances of it (`checkSizes_eq_none_iff` says what passing means);
* `ValidatedReconfigureMsg.new` -- LRTQ-only, membership of the coordinator, sizes, rack id,
  expungement, epochs, and the comparison with the reconfiguration already being coordinated,
  in the source's order; `ok none` is the idempotent repetition of that reconfiguration;
* `ValidatedLrtqUpgradeMsg.new` -- expungement first, then rack id, LRTQ share, absence of any
  commit, membership, sizes, and an epoch of at least 2 above every known configuration.
-/

namespace Omicron.TrustQuorum

variable {ι : Type} [LinearOrder ι]

/-- `ReconfigureMsg`. -/
structure ReconfigureMsg (ι : Type) where
  rackId : RackUuid
  epoch : Nat
  lastCommittedEpoch : Option Nat
  members : Finset ι
  threshold : Nat
  deriving DecidableEq

/-- `LrtqUpgradeMsg`. -/
structure LrtqUpgradeMsg (ι : Type) where
  rackId : RackUuid
  epoch : Nat
  members : Finset ι
  threshold : Nat
  deriving DecidableEq

/-- `ValidatedReconfigureMsg`: a `ReconfigureMsg` that passed validation, with the node that
    coordinates it. -/
structure ValidatedReconfigureMsg (ι : Type) where
  rackId : RackUuid
  epoch : Nat
  lastCommittedEpoch : Option Nat
  members : Finset ι
  threshold : Nat
  coordinatorId : ι
  deriving DecidableEq

/-- `ValidatedLrtqUpgradeMsg`. -/
structure ValidatedLrtqUpgradeMsg (ι : Type) where
  rackId : RackUuid
  epoch : Nat
  members : Finset ι
  threshold : Nat
  coordinatorId : ι
  deriving DecidableEq

/-- `MismatchedRackIdError`. -/
structure MismatchedRackIdError where
  expected : RackUuid
  got : RackUuid
  deriving DecidableEq

/-- `SledExpungedError`. -/
structure SledExpungedError (ι : Type) where
  sender : ι
  epoch : Nat
  lastPreparedEpoch : Option Nat
  deriving DecidableEq

/-- `ReconfigurationError`. -/
inductive ReconfigurationError (ι : Type) where
  | coordinatorMustBeAMemberOfNewGroup
  | upgradeFromLrtqRequired
  | upgradeFromLrtqInProgress
  | thresholdMismatch (numMembers : Nat) (threshold : Nat)
  | invalidMembershipSize (numMembers : Nat)
  | invalidThreshold (threshold : Nat)
  | lastCommittedEpochMismatch (nodeEpoch msgEpoch : Option Nat)
  | preparedEpochMismatch (existing new : Nat)
  | invalidRackId (err : MismatchedRackIdError)
  | decommissionedSled (err : SledExpungedError ι)
  | reconfigurationInProgress (currentEpoch msgEpoch : Nat)
  | mismatchedReconfigurationForSameEpoch (epoch : Nat)
  | configuration (err : ConfigurationError)

/-- `LrtqUpgradeError`. -/
inductive LrtqUpgradeError (ι : Type) where
  | invalidRackId (err : MismatchedRackIdError)
  | expunged (epoch : Nat) (sender : ι)
  | noLrtqShare
  | alreadyUpgraded (epoch : Nat)
  | coordinatorMustBeAMemberOfNewGroup
  | thresholdMismatch (numMembers : Nat) (threshold : Nat)
  | invalidMembershipSize (numMembers : Nat)
  | invalidThreshold (threshold : Nat)
  | preparedEpochMismatch (existing new : Nat)
  | epochMustBeAtLeast2 (epoch : Nat)
  | configuration (err : ConfigurationError)

/-- `PersistentStateSummary`, the fields the validators read. -/
structure PersistentStateSummary (ι : Type) where
  rackId : Option RackUuid
  isLrtqOnly : Bool
  latestConfig : Option Nat
  latestCommittedConfig : Option Nat
  expunged : Option (ExpungedMetadata ι)

/-- `impl From<&PersistentState> for PersistentStateSummary`. -/
def PersistentState.summary (ps : PersistentState ι) : PersistentStateSummary ι :=
  ⟨ps.rackId, ps.isLrtqOnly, ps.latestConfig.map (·.epoch), ps.latestCommittedEpoch, ps.expunged⟩

/-- `check_rack_id`. -/
def checkRackId (msgRackId : RackUuid) (ps : PersistentStateSummary ι) :
    Except MismatchedRackIdError Unit :=
  match ps.rackId with
  | some rackId => if rackId ≠ msgRackId then .error ⟨rackId, msgRackId⟩ else .ok ()
  | none => .ok ()

/-- `check_in_service`. -/
def checkInService (ps : PersistentStateSummary ι) : Except (SledExpungedError ι) Unit :=
  match ps.expunged with
  | some m => .error ⟨m.sender, m.epoch, ps.latestCommittedConfig⟩
  | none => .ok ()

/-- A violation of the membership size constraints. -/
inductive SizeViolation where
  | thresholdMismatch (numMembers : Nat) (threshold : Nat)
  | invalidMembershipSize (numMembers : Nat)
  | invalidThreshold (threshold : Nat)

/-- The body shared by both `check_membership_sizes`: more members than the threshold, between 3
    and 32 members, a threshold between 2 and 31, checked in that order. -/
def checkSizes (numMembers : Nat) (threshold : Nat) : Option SizeViolation :=
  if numMembers ≤ threshold then some (.thresholdMismatch numMembers threshold)
  else if numMembers < 3 ∨ numMembers > 32 then some (.invalidMembershipSize numMembers)
  else if threshold < 2 ∨ threshold > 31 then some (.invalidThreshold threshold)
  else none

theorem checkSizes_eq_none_iff (numMembers : Nat) (threshold : Nat) :
    checkSizes numMembers threshold = none ↔
      threshold < numMembers ∧ 3 ≤ numMembers ∧ numMembers ≤ 32 ∧ 2 ≤ threshold ∧
        threshold ≤ 31 := by
  unfold checkSizes
  split_ifs with h1 h2 h3
  · simp only [false_iff]
    omega
  · simp only [false_iff]
    omega
  · simp only [false_iff]
    omega
  · simp only [true_iff]
    omega

namespace ValidatedReconfigureMsg

/-- `ValidatedReconfigureMsg::check_membership_sizes`. -/
def checkMembershipSizes (msg : ReconfigureMsg ι) : Except (ReconfigurationError ι) Unit :=
  match checkSizes msg.members.card msg.threshold with
  | none => .ok ()
  | some (.thresholdMismatch n t) => .error (.thresholdMismatch n t)
  | some (.invalidMembershipSize n) => .error (.invalidMembershipSize n)
  | some (.invalidThreshold t) => .error (.invalidThreshold t)

/-- `ValidatedReconfigureMsg::check_epoch`: the node's last committed epoch is the message's, and
    no configuration at the message's epoch or later is known. -/
def checkEpoch (msg : ReconfigureMsg ι) (ps : PersistentStateSummary ι) :
    Except (ReconfigurationError ι) Unit :=
  if msg.lastCommittedEpoch ≠ ps.latestCommittedConfig then
    .error (.lastCommittedEpochMismatch ps.latestCommittedConfig msg.lastCommittedEpoch)
  else match ps.latestConfig with
    | some latest => if msg.epoch ≤ latest then .error (.preparedEpochMismatch latest msg.epoch)
      else .ok ()
    | none => .ok ()

/-- `impl PartialEq<ValidatedReconfigureMsg> for ReconfigureMsg`: every field but the
    coordinator. -/
def sameRequest (v : ValidatedReconfigureMsg ι) (msg : ReconfigureMsg ι) : Bool :=
  v.rackId == msg.rackId && v.epoch == msg.epoch &&
    v.lastCommittedEpoch == msg.lastCommittedEpoch && decide (v.members = msg.members) &&
    v.threshold == msg.threshold

/-- `ValidatedReconfigureMsg::check_existing_coordination`: `ok true` for a repetition of the
    request being coordinated. -/
def checkExistingCoordination (newMsg : ReconfigureMsg ι)
    (lastReconfigMsg : Option (ValidatedReconfigureMsg ι)) :
    Except (ReconfigurationError ι) Bool :=
  match lastReconfigMsg with
  | none => .ok false
  | some existing =>
    if existing.epoch > newMsg.epoch then
      .error (.reconfigurationInProgress existing.epoch newMsg.epoch)
    else if existing.epoch = newMsg.epoch then
      if sameRequest existing newMsg then .ok true
      else .error (.mismatchedReconfigurationForSameEpoch newMsg.epoch)
    else .ok false

/-- `ValidatedReconfigureMsg::new`: `ok none` for an idempotent request. -/
def new (coordinatorId : ι) (msg : ReconfigureMsg ι) (ps : PersistentStateSummary ι)
    (lastReconfigMsg : Option (ValidatedReconfigureMsg ι)) :
    Except (ReconfigurationError ι) (Option (ValidatedReconfigureMsg ι)) := do
  if ps.isLrtqOnly then throw .upgradeFromLrtqRequired
  if coordinatorId ∉ msg.members then throw .coordinatorMustBeAMemberOfNewGroup
  checkMembershipSizes msg
  match checkRackId msg.rackId ps with
  | .error e => throw (.invalidRackId e)
  | .ok () => pure ()
  match checkInService ps with
  | .error e => throw (.decommissionedSled e)
  | .ok () => pure ()
  checkEpoch msg ps
  let isIdempotentRequest ← checkExistingCoordination msg lastReconfigMsg
  if isIdempotentRequest then return none
  return some ⟨msg.rackId, msg.epoch, msg.lastCommittedEpoch, msg.members, msg.threshold,
    coordinatorId⟩

/-- `impl From<&ValidatedReconfigureMsg> for NewConfigParams`. -/
def toParams (v : ValidatedReconfigureMsg ι) : NewConfigParams ι :=
  ⟨v.rackId, v.epoch, v.members, v.threshold, v.coordinatorId⟩

end ValidatedReconfigureMsg

namespace ValidatedLrtqUpgradeMsg

/-- `ValidatedLrtqUpgradeMsg::check_membership_sizes`. -/
def checkMembershipSizes (msg : LrtqUpgradeMsg ι) : Except (LrtqUpgradeError ι) Unit :=
  match checkSizes msg.members.card msg.threshold with
  | none => .ok ()
  | some (.thresholdMismatch n t) => .error (.thresholdMismatch n t)
  | some (.invalidMembershipSize n) => .error (.invalidMembershipSize n)
  | some (.invalidThreshold t) => .error (.invalidThreshold t)

/-- `ValidatedLrtqUpgradeMsg::check_epoch`: at least 2 (LRTQ is epoch 1), and above every known
    configuration. -/
def checkEpoch (ps : PersistentState ι) (msg : LrtqUpgradeMsg ι) :
    Except (LrtqUpgradeError ι) Unit :=
  if msg.epoch < 2 then .error (.epochMustBeAtLeast2 msg.epoch)
  else match ps.latestConfig with
    | some latest => if msg.epoch ≤ latest.epoch then
        .error (.preparedEpochMismatch latest.epoch msg.epoch)
      else .ok ()
    | none => .ok ()

/-- `ValidatedLrtqUpgradeMsg::new`, for the node `platformId` with persistent state `ps`: each
    check returns its error early, in the source's order. (The source inlines the rack id check;
    it is `check_rack_id`'s.) -/
def new (platformId : ι) (ps : PersistentState ι) (msg : LrtqUpgradeMsg ι) :
    Except (LrtqUpgradeError ι) (ValidatedLrtqUpgradeMsg ι) :=
  match ps.expunged with
  | some m => .error (.expunged m.epoch m.sender)
  | none =>
    match checkRackId msg.rackId ps.summary with
    | .error e => .error (.invalidRackId e)
    | .ok () =>
      if ps.lrtq.isNone then .error .noLrtqShare
      else match ps.latestCommittedEpoch with
        | some e => .error (.alreadyUpgraded e)
        | none =>
          if platformId ∉ msg.members then .error .coordinatorMustBeAMemberOfNewGroup
          else do
            checkMembershipSizes msg
            checkEpoch ps msg
            return ⟨msg.rackId, msg.epoch, msg.members, msg.threshold, platformId⟩

/-- `impl From<&ValidatedLrtqUpgradeMsg> for NewConfigParams`. -/
def toParams (v : ValidatedLrtqUpgradeMsg ι) : NewConfigParams ι :=
  ⟨v.rackId, v.epoch, v.members, v.threshold, v.coordinatorId⟩

end ValidatedLrtqUpgradeMsg

end Omicron.TrustQuorum
